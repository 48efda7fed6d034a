import StylesheetAssets.Proofs.Path.Directory

/-!
Paths as seen from a directory: whoever follows them from there arrives where they were taken.
-/
namespace StylesheetAssets.Path

/-- The longest start that two lists have in common. -/
structure IsCommonStart (common as bs : List Component) : Prop where
  left : common <+: as
  right : common <+: bs
  longest : ∀ other, other <+: as → other <+: bs → other <+: common

namespace IsCommonStart

variable {common as bs : List Component} {a b : Component}

theorem cons (h : IsCommonStart common as bs) (a : Component) :
    IsCommonStart (a :: common) (a :: as) (a :: bs) := by
  refine ⟨(List.prefix_cons_inj a).2 h.left, (List.prefix_cons_inj a).2 h.right, ?_⟩
  intro other hleft hright
  cases other with
  | nil => exact List.nil_prefix
  | cons c other =>
    obtain ⟨rfl, has⟩ := List.cons_prefix_cons.1 hleft
    obtain ⟨-, hbs⟩ := List.cons_prefix_cons.1 hright
    exact (List.prefix_cons_inj c).2 (h.longest other has hbs)

/-- Lists that differ at once have no start in common. -/
theorem nil_of_ne (h : a ≠ b) : IsCommonStart [] (a :: as) (b :: bs) := by
  refine ⟨List.nil_prefix, List.nil_prefix, fun other hleft hright => ?_⟩
  cases other with
  | nil => exact List.nil_prefix
  | cons c other =>
    obtain ⟨rfl, -⟩ := List.cons_prefix_cons.1 hleft
    exact absurd (List.cons_prefix_cons.1 hright).1 h

end IsCommonStart

/-- What two lists have left stands behind their longest common start in both. -/
theorem exists_dropCommon (as bs : List Component) :
    ∃ common, IsCommonStart common as bs ∧
      as = common ++ (dropCommon as bs).1 ∧ bs = common ++ (dropCommon as bs).2 := by
  fun_induction dropCommon as bs with
  | case1 as a bs ih =>
    obtain ⟨common, hcommon, has, hbs⟩ := ih
    exact ⟨a :: common, hcommon.cons a, congrArg _ has, congrArg _ hbs⟩
  | case2 a as b bs hne => exact ⟨[], .nil_of_ne hne, rfl, rfl⟩
  | case3 as bs hnone =>
    refine ⟨[], ⟨List.nil_prefix, List.nil_prefix, fun other hleft hright => ?_⟩, rfl, rfl⟩
    cases as with
    | nil => exact hleft
    | cons a as =>
      cases bs with
      | nil => exact hright
      | cons b bs => exact (hnone a as b bs rfl rfl).elim

theorem foldl_descend_name (names below : List String) :
    (names.map Component.name).foldl descend below = names.reverse ++ below := by
  induction names generalizing below with
  | nil => rfl
  | cons s names ih =>
    rw [List.map_cons, List.foldl_cons, ih, List.reverse_cons, List.append_assoc]
    rfl

theorem foldl_descend_parent (up : Nat) (names : List String) :
    (List.replicate up Component.parent).foldl descend names = names.drop up := by
  induction up generalizing names with
  | zero => rfl
  | succ up ih =>
    rw [List.replicate_succ, List.foldl_cons, ih, Nat.add_comm, ← List.drop_drop, List.drop_one]
    rfl

/-- A component of a relative path without idle pieces. -/
def IsStep (c : Component) : Prop := c = .parent ∨ ∃ s, c = .name s ∧ IsName s

theorem isStep_of_mem_names {names : List String} (h : ∀ s ∈ names, IsName s) {c : Component}
    (hc : c ∈ names.map .name) : IsStep c := by
  obtain ⟨s, hs, rfl⟩ := List.mem_map.1 hc
  exact .inr ⟨s, rfl, h s hs⟩

theorem isStep_of_mem {up : Nat} {down : List String} (h : ∀ s ∈ down, IsName s) {c : Component}
    (hc : c ∈ List.replicate up Component.parent ++ down.map .name) : IsStep c := by
  rcases List.mem_append.1 hc with hc | hc
  · exact .inl (List.eq_of_mem_replicate hc)
  · exact isStep_of_mem_names h hc

/-- A step stands between separators as it is. -/
theorem IsStep.text {c : Component} (h : IsStep c) :
    c.text.toList ≠ [] ∧ '/' ∉ c.text.toList ∧ c.text.toList ≠ ['.'] := by
  rcases h with rfl | ⟨s, rfl, hs⟩
  · decide
  · exact ⟨hs.1, hs.2.2.2, fun hdot => hs.not_isIdle (.inr hdot)⟩

theorem body_text_of_isStep {c : Component} (h : IsStep c) :
    isAbsolute ⟨c.text⟩ = false ∧ body ⟨c.text⟩ = [c] := by
  rcases h with rfl | ⟨s, rfl, hs⟩
  · decide
  · have hpieces : pieces ⟨s⟩ = [s.toList] := by
      have hjoin := pieces_joinWith (List.cons_ne_nil s.toList []) (by simpa using hs.2.2.2)
      rwa [Text.joinWith, String.ofList_toList] at hjoin
    refine ⟨isAbsolute_of_isName hs, ?_⟩
    simp [body, bodyComponents, Component.text, hpieces, ofPiece?_of_isName hs]

/-- A path joined from steps has these steps. -/
theorem body_ofComponents {cs : List Component} (h : ∀ c ∈ cs, IsStep c) :
    (ofComponents cs).isAbsolute = false ∧ (ofComponents cs).body = cs := by
  induction cs using List.reverseRecOn with
  | nil => exact ⟨rfl, rfl⟩
  | append_singleton cs c ih =>
    obtain ⟨hrel, hbody⟩ := ih fun d hd => h d (List.mem_append_left _ hd)
    obtain ⟨hrel', hbody'⟩ := body_text_of_isStep (h c (by simp))
    have hjoin : ofComponents (cs ++ [c]) = (ofComponents cs).join ⟨c.text⟩ := by
      simp [ofComponents]
    rw [hjoin, isAbsolute_join hrel', body_join hrel', hbody, hbody']
    exact ⟨hrel, rfl⟩

/-- The text of a path joined from steps: their texts, with a separator between neighbours. -/
theorem ofComponents_eq {cs : List Component} (h : ∀ c ∈ cs, IsStep c) :
    ofComponents cs = ⟨String.ofList (Text.joinWith ['/'] (cs.map (·.text.toList)))⟩ := by
  induction cs using List.reverseRecOn with
  | nil => rfl
  | append_singleton cs c ih =>
    have hcs : ∀ d ∈ cs, IsStep d := fun d hd => h d (List.mem_append_left _ hd)
    have hrel := (body_text_of_isStep (h c (by simp))).1
    have hjoin : ofComponents (cs ++ [c]) = (ofComponents cs).join ⟨c.text⟩ := by
      simp [ofComponents]
    rw [hjoin, ih hcs]
    rcases List.eq_nil_or_concat cs with rfl | ⟨ds, d, rfl⟩
    · simp [join, hrel, Text.joinWith]
    · rw [List.concat_eq_append] at hcs ⊢
      obtain ⟨hne, hslash, -⟩ := (hcs d (by simp)).text
      obtain ⟨init, e, he⟩ := (List.eq_nil_or_concat d.text.toList).resolve_left hne
      rw [List.concat_eq_append] at he
      have hlast : (Text.joinWith ['/'] ((ds ++ [d]).map (·.text.toList))).getLast? = some e := by
        rw [List.map_append, List.map_singleton, Text.getLast?_joinWith_concat _ _ hne, he]
        simp
      have hopen : e ≠ '/' := fun heq => hslash (by simp [he, heq])
      have hmap : (ds ++ [d] ++ [c]).map (·.text.toList) =
          (ds ++ [d]).map (·.text.toList) ++ [c.text.toList] := List.map_append
      rw [join, if_neg (by simp [hrel]),
        if_neg (by simp only [String.toList_ofList, hlast]; simpa using hopen), hmap,
        Text.joinWith_concat _ _ (by simp)]
      congr 1
      apply String.toList_inj.1
      simp

theorem pieces_ofComponents {cs : List Component} (hne : cs ≠ []) (h : ∀ c ∈ cs, IsStep c) :
    (ofComponents cs).pieces = cs.map (·.text.toList) := by
  rw [ofComponents_eq h, pieces_joinWith (by simpa using hne)]
  intro piece hpiece
  obtain ⟨c, hc, rfl⟩ := List.mem_map.1 hpiece
  exact (h c hc).text.2.1

theorem components_ofComponents {cs : List Component} (h : ∀ c ∈ cs, IsStep c) :
    (ofComponents cs).components = cs := by
  obtain ⟨hrel, hbody⟩ := body_ofComponents h
  have hhere : (ofComponents cs).pieces.head? ≠ some ['.'] := by
    cases cs with
    | nil => decide
    | cons c cs =>
      rw [pieces_ofComponents (List.cons_ne_nil c cs) h]
      simpa using (h c List.mem_cons_self).text.2.2
  rw [components_eq, if_neg (by simp [hrel]), if_neg hhere, hbody]
  rfl

theorem components_normalize {p : Path} (h : p.isAbsolute = true) :
    p.normalize.components = place p.trail := by
  have hnames : ∀ s ∈ p.trail.reverse, IsName s := fun s hs =>
    isName_of_mem_trail (List.mem_reverse.1 hs)
  have hbody : p.normalize.body = p.trail.reverse.map .name := by
    rw [normalize_of_isAbsolute h, ofComponents_place fun _ => isName_of_mem_trail,
      body_rooted hnames]
  rw [components_eq, isAbsolute_normalize h, if_pos rfl, hbody]
  rfl

/-- The way to a path and the way to a directory part somewhere. Seen from the directory, the path
leads back to there and then on. -/
theorem exists_relativeTo {p base : Path} (hp : p.isAbsolute = true)
    (hbase : base.isAbsolute = true) :
    ∃ common up down : List String,
      IsCommonStart (place common) p.normalize.components base.normalize.components ∧
      base.trail = up.reverse ++ common ∧ p.trail = down.reverse ++ common ∧
      p.relativeTo base =
        ofComponents (List.replicate up.length Component.parent ++ down.map .name) := by
  have hdrop : dropCommon p.normalize.components base.normalize.components =
      dropCommon (p.trail.reverse.map .name) (base.trail.reverse.map .name) := by
    rw [components_normalize hp, components_normalize hbase, place, place, dropCommon, if_pos rfl]
  obtain ⟨common, hcommon, hdown, hup⟩ :=
    exists_dropCommon (p.trail.reverse.map .name) (base.trail.reverse.map .name)
  obtain ⟨start, down, htrail, hstart, hdown⟩ := List.map_eq_append_iff.1 hdown
  obtain ⟨start', up, htrail', hstart', hup⟩ := List.map_eq_append_iff.1 hup
  obtain rfl : start = start' :=
    List.map_injective_iff.2 (fun _ _ => Component.name.inj) (hstart.trans hstart'.symm)
  refine ⟨start.reverse, up, down, ?_, ?_, ?_, ?_⟩
  · rw [components_normalize hp, components_normalize hbase, place, List.reverse_reverse, hstart]
    exact hcommon.cons .root
  · rw [← List.reverse_append, ← htrail', List.reverse_reverse]
  · rw [← List.reverse_append, ← htrail, List.reverse_reverse]
  · have hrest : dropCommon (p.trail.reverse.map .name) (base.trail.reverse.map .name) =
        (down.map .name, up.map .name) := Prod.ext hdown.symm hup.symm
    rw [relativeTo, hdrop, hrest]
    simp only [List.map_const', List.length_map]

theorem isName_of_trail_eq {p : Path} {down common : List String}
    (h : p.trail = down.reverse ++ common) : ∀ s ∈ down, IsName s := by
  intro s hs
  refine isName_of_mem_trail (p := p) ?_
  rw [h]
  exact List.mem_append_left _ (List.mem_reverse.2 hs)

theorem relativeTo_spec {p base : Path} (hp : p.isAbsolute = true)
    (hbase : base.isAbsolute = true) :
    (p.relativeTo base).isAbsolute = false ∧
      (p.relativeTo base).body.foldl descend base.trail = p.trail := by
  obtain ⟨common, up, down, -, hbaseTrail, htrail, hrel⟩ := exists_relativeTo hp hbase
  have hdown := isName_of_trail_eq htrail
  have hsteps : ∀ c ∈ List.replicate up.length Component.parent ++ down.map .name, IsStep c :=
    fun _ => isStep_of_mem hdown
  obtain ⟨hrelative, hbody⟩ := body_ofComponents hsteps
  rw [hrel]
  refine ⟨hrelative, ?_⟩
  rw [hbody, List.foldl_append, foldl_descend_parent, foldl_descend_name, hbaseTrail, htrail,
    List.drop_left' List.length_reverse]

/-- A leading `./` changes neither the steps of a relative path nor where it starts. -/
theorem body_written {p : Path} (h : p.isAbsolute = false) (slash : Bool) :
    isAbsolute ⟨(if slash then "./" else "") ++ p.text⟩ = false ∧
      body ⟨(if slash then "./" else "") ++ p.text⟩ = p.body := by
  cases slash with
  | true =>
    have hjoin : (⟨"./" ++ p.text⟩ : Path) = join ⟨"."⟩ p := by
      rw [join, if_neg (by simp [h]), if_neg (by decide)]
      rfl
    rw [if_pos rfl, hjoin, isAbsolute_join h, body_join h]
    exact ⟨rfl, rfl⟩
  | false =>
    rw [if_neg Bool.false_ne_true, String.empty_append]
    exact ⟨h, rfl⟩

/-- A path leads back from the directory that it is seen from, with or without a leading `./`. -/
theorem absolutize_relativeTo {p base : Path} (hp : p.isAbsolute = true)
    (hbase : base.isAbsolute = true) (slash : Bool) :
    absolutize ⟨(if slash then "./" else "") ++ (p.relativeTo base).text⟩ base = p.normalize := by
  obtain ⟨hrel, hsteps⟩ := relativeTo_spec hp hbase
  obtain ⟨hwritten, hbody⟩ := body_written hrel slash
  refine normalize_eq_of_trail_eq (isAbsolute_join_of_isAbsolute _ hbase) hp ?_
  rw [trail_join hwritten, hbody, hsteps]

theorem toSlash_eq {p : Path} (h : ∀ c ∈ p.text.toList, c ≠ '\\') : p.toSlash = p.text := by
  apply String.toList_inj.1
  rw [toSlash, String.toList_map]
  exact (List.map_congr_left fun c hc => if_neg (h c hc)).trans (List.map_id _)

end StylesheetAssets.Path
