import StylesheetAssets.Proofs.Path.Relative
import StylesheetAssets.Proofs.Text.Splitting
import StylesheetAssets.Rewrite.Value

/-!
Ways from a directory to a path: no more steps up than it takes, then down by names. The text by
which a stylesheet refers to a copy is such a way. It leads back to the copy from the directory of
the stylesheet, and where that is not known, from the first directory on the way to the copy.
-/
namespace StylesheetAssets

namespace Text

variable {separator p : List Char} {ps : List (List Char)} {c : Char}

theorem mem_of_mem_joinWith (h : c ∈ joinWith separator ps) : c ∈ separator ∨ ∃ p ∈ ps, c ∈ p := by
  fun_induction joinWith separator ps with
  | case1 => cases h
  | case2 piece => exact .inr ⟨piece, List.mem_singleton_self piece, h⟩
  | case3 piece rest _ ih =>
    rcases List.mem_append.1 h with h | h
    · rcases List.mem_append.1 h with h | h
      · exact .inr ⟨piece, List.mem_cons_self, h⟩
      · exact .inl h
    · rcases ih h with h | ⟨p, hp, hc⟩
      · exact .inl h
      · exact .inr ⟨p, List.mem_cons_of_mem piece hp, hc⟩

theorem mem_joinWith (hp : p ∈ ps) (hc : c ∈ p) : c ∈ joinWith separator ps := by
  fun_induction joinWith separator ps with
  | case1 => cases hp
  | case2 piece => rwa [← List.mem_singleton.1 hp]
  | case3 piece rest _ ih =>
    rcases List.mem_cons.1 hp with rfl | hp
    · exact List.mem_append_left _ (List.mem_append_left _ hc)
    · exact List.mem_append_right _ (ih hp)

end Text

namespace Path

variable {p base : Path}

/-! ### Steps of a way -/

theorem place_append (up common : List String) :
    place (up.reverse ++ common) = place common ++ up.map .name := by
  simp [place]

/-- One step up for each component of the directory beyond the longest common start, then the rest
of the path. -/
theorem relativeTo_steps (hp : p.isAbsolute = true) (hbase : base.isAbsolute = true) :
    ∃ (common up : List Component) (down : List String),
      IsCommonStart common p.normalize.components base.normalize.components ∧
        base.normalize.components = common ++ up ∧
        p.normalize.components = common ++ down.map .name ∧
        (p.relativeTo base).components =
          List.replicate up.length Component.parent ++ down.map .name := by
  obtain ⟨common, up, down, hcommon, hbaseTrail, htrail, hrel⟩ := exists_relativeTo hp hbase
  refine ⟨place common, up.map .name, down, hcommon, ?_, ?_, ?_⟩
  · rw [components_normalize hbase, hbaseTrail, place_append]
  · rw [components_normalize hp, htrail, place_append]
  · rw [hrel, List.length_map]
    exact components_ofComponents fun _ => isStep_of_mem (isName_of_trail_eq htrail)

theorem normalize_eq_iff (hp : p.isAbsolute = true) (hbase : base.isAbsolute = true) :
    p.normalize = base.normalize ↔ p.normalize.components = base.normalize.components := by
  refine ⟨congrArg components, fun h => ?_⟩
  rw [components_normalize hp, components_normalize hbase] at h
  rw [normalize_of_isAbsolute hp, normalize_of_isAbsolute hbase, h]

theorem dropCommon_append (common as : List Component) :
    dropCommon (common ++ as) common = (as, []) := by
  induction common with
  | nil => cases as <;> rfl
  | cons c common ih => rw [List.cons_append, dropCommon, if_pos rfl, ih]

/-- The way to a path below the directory. -/
theorem relativeTo_of_below {down : List Component}
    (h : p.normalize.components = base.normalize.components ++ down) :
    p.relativeTo base = ofComponents down := by
  rw [relativeTo, h, dropCommon_append]
  rfl

/-- There is no way to go to where one is. -/
theorem relativeTo_eq_empty_iff (hp : p.isAbsolute = true) (hbase : base.isAbsolute = true) :
    p.relativeTo base = empty ↔ p.normalize = base.normalize := by
  rw [normalize_eq_iff hp hbase]
  constructor
  · intro h
    obtain ⟨common, up, down, -, hup, hdown, hsteps⟩ := relativeTo_steps hp hbase
    have hnone : List.replicate up.length Component.parent ++ down.map Component.name = [] := by
      rw [← hsteps, h]
      rfl
    obtain ⟨hnoUp, hnoDown⟩ := List.append_eq_nil_iff.1 hnone
    rw [List.replicate_eq_nil_iff, List.length_eq_zero_iff] at hnoUp
    rw [hup, hdown, hnoUp, hnoDown]
  · intro h
    exact relativeTo_of_below (h.trans (List.append_nil _).symm)

/-- Whoever follows the way from the directory arrives. -/
theorem absolutize_relativeTo_self (hp : p.isAbsolute = true) (hbase : base.isAbsolute = true) :
    (p.relativeTo base).absolutize base = p.normalize := by
  obtain ⟨hrel, hsteps⟩ := relativeTo_spec hp hbase
  rw [absolutize]
  refine normalize_eq_of_trail_eq (isAbsolute_join_of_isAbsolute _ hbase) hp ?_
  rw [trail_join hrel, hsteps]

/-! ### Texts of ways -/

theorem mem_text_of_mem_trail {s : String} {c : Char} (h : s ∈ p.trail) (hc : c ∈ s.toList) :
    c ∈ p.text.toList := by
  obtain ⟨piece, hpiece, hname⟩ := List.mem_filterMap.1 (mem_body_of_mem_trail h)
  have hs : s.toList = piece := by
    unfold Component.ofPiece? at hname
    split_ifs at hname
    · cases hname
    · cases hname
      exact String.toList_ofList
  rw [← Text.joinWith_splitOn '/' p.text.toList]
  exact Text.mem_joinWith hpiece (hs ▸ hc)

/-- A way has no characters but those of the path, and those of the steps up. -/
theorem mem_text_relativeTo (hp : p.isAbsolute = true) (hbase : base.isAbsolute = true) {c : Char}
    (h : c ∈ (p.relativeTo base).text.toList) : c = '/' ∨ c = '.' ∨ c ∈ p.text.toList := by
  obtain ⟨common, up, down, -, -, htrail, hrel⟩ := exists_relativeTo hp hbase
  rw [hrel, ofComponents_eq fun _ => isStep_of_mem (isName_of_trail_eq htrail),
    String.toList_ofList] at h
  rcases Text.mem_of_mem_joinWith h with h | ⟨piece, hpiece, h⟩
  · exact .inl (List.mem_singleton.1 h)
  · obtain ⟨step, hstep, rfl⟩ := List.mem_map.1 hpiece
    rcases List.mem_append.1 hstep with hstep | hstep
    · rw [List.eq_of_mem_replicate hstep] at h
      exact .inr (.inl (by simpa [Component.text] using h))
    · obtain ⟨s, hs, rfl⟩ := List.mem_map.1 hstep
      refine .inr (.inr (mem_text_of_mem_trail (s := s) ?_ h))
      rw [htrail]
      exact List.mem_append_left _ (List.mem_reverse.2 hs)

theorem toSlash_relativeTo (hp : p.isAbsolute = true) (hbase : base.isAbsolute = true)
    (hplain : '\\' ∉ p.text.toList) : (p.relativeTo base).toSlash = (p.relativeTo base).text := by
  refine toSlash_eq fun c hc => ?_
  rintro rfl
  rcases mem_text_relativeTo hp hbase hc with h | h | h
  · cases h
  · cases h
  · exact hplain h

/-- The components of a canonical path below another one are names. -/
theorem exists_names_of_below {down : List Component} (hp : p.isAbsolute = true)
    (hbase : base.isAbsolute = true)
    (h : p.normalize.components = base.normalize.components ++ down) :
    ∃ names : List String, down = names.map .name ∧ p.trail = names.reverse ++ base.trail := by
  rw [components_normalize hp, components_normalize hbase, place, place, List.cons_append,
    List.cons.injEq] at h
  obtain ⟨above, names, htrail, habove, rfl⟩ := List.map_eq_append_iff.1 h.2
  obtain rfl : above = base.trail.reverse :=
    List.map_injective_iff.2 (fun _ _ => Component.name.inj) habove
  refine ⟨names, rfl, ?_⟩
  rw [← List.reverse_reverse p.trail, htrail, List.reverse_append, List.reverse_reverse]

/-- Without its first segment, a path of names has its further names. -/
theorem dropFirstSegment_ofComponents {s t : String} {names : List String}
    (h : ∀ u ∈ s :: t :: names, IsName u) :
    String.ofList (dropFirstSegment
        (ofComponents ((s :: t :: names).map .name)).text.toList) =
      (ofComponents ((t :: names).map .name)).text := by
  have htail : ∀ u ∈ t :: names, IsName u := fun u hu => h u (List.mem_cons_of_mem s hu)
  rw [ofComponents_eq fun _ => isStep_of_mem_names h,
    ofComponents_eq fun _ => isStep_of_mem_names htail]
  have hslash : ∀ c ∈ s.toList, (c == '/') = false := fun c hc =>
    beq_eq_false_iff_ne.2 fun heq => (h s List.mem_cons_self).2.2.2 (heq ▸ hc)
  have hjoin : Text.joinWith ['/'] (((s :: t :: names).map Component.name).map (·.text.toList)) =
      s.toList ++ '/' ::
        Text.joinWith ['/'] (((t :: names).map Component.name).map (·.text.toList)) := by
    simp [Text.joinWith, Component.text]
  rw [String.toList_ofList, hjoin, dropFirstSegment, Text.splitAt_eq hslash (by simp)]

/-! ### References -/

theorem eq_of_text_eq {p q : Path} (h : p.text = q.text) : p = q := by
  cases p
  cases q
  exact congrArg mk h

theorem trail_join_name (p : Path) {s : String} (h : IsName s) :
    (p.join ⟨s⟩).trail = s :: p.trail := by
  obtain ⟨hrel, hbody⟩ := body_text_of_isStep (.inr ⟨s, rfl, h⟩)
  exact (trail_join hrel).trans (congrArg (List.foldl descend p.trail) hbody)

/-- A reference leads back to the copy from the directory that it is written for. -/
theorem absolutize_referencePath (hp : p.isAbsolute = true) (hbase : base.isAbsolute = true)
    (hplain : '\\' ∉ p.text.toList) (workDir : Path) (journal : Journal) :
    absolutize ⟨(referencePath p (some base) workDir journal).1⟩ base = p.normalize := by
  have hrun : (referencePath p (some base) workDir journal).1 = (p.relativeTo base).toSlash := rfl
  have hway : (⟨(referencePath p (some base) workDir journal).1⟩ : Path) = p.relativeTo base :=
    eq_of_text_eq (hrun.trans (toSlash_relativeTo hp hbase hplain))
  rw [hway, absolutize_relativeTo_self hp hbase]

/-- Where no directory is given, it leads back from the first one on the way to the copy. -/
theorem absolutize_referencePath_none {workDir : Path} {s : String} {c : Component}
    {rest : List Component} (hp : p.isAbsolute = true) (hwork : workDir.isAbsolute = true)
    (hplain : '\\' ∉ p.text.toList)
    (h : p.normalize.components = workDir.normalize.components ++ .name s :: c :: rest)
    (journal : Journal) :
    absolutize ⟨(referencePath p none workDir journal).1⟩ (workDir.join ⟨s⟩) = p.normalize := by
  obtain ⟨names, hnames, htrail⟩ := exists_names_of_below hp hwork h
  obtain ⟨names, rfl⟩ : ∃ names', names = s :: names' := by
    cases names with
    | nil => cases hnames
    | cons t names => exact ⟨names, by rw [(Component.name.inj (List.cons.inj hnames).1)]⟩
  obtain ⟨t, names, rfl⟩ := List.exists_cons_of_ne_nil (l := names) (by rintro rfl; cases hnames)
  have hall : ∀ u ∈ s :: t :: names, IsName u := isName_of_trail_eq htrail
  have htail : ∀ u ∈ t :: names, IsName u := fun u hu => hall u (List.mem_cons_of_mem s hu)
  have hway : p.relativeTo workDir = ofComponents ((s :: t :: names).map .name) :=
    relativeTo_of_below (h.trans (by rw [hnames]))
  have htext : (⟨(referencePath p none workDir journal).1⟩ : Path) =
      ofComponents ((t :: names).map .name) := by
    have hrun : (referencePath p none workDir journal).1 =
        String.ofList (dropFirstSegment (p.relativeTo workDir).toSlash.toList) := rfl
    rw [hrun, toSlash_relativeTo hp hwork hplain, hway, dropFirstSegment_ofComponents hall]
  obtain ⟨hrel, hbody⟩ := body_ofComponents fun _ => isStep_of_mem_names htail
  have hdir : (workDir.join ⟨s⟩).isAbsolute = true := isAbsolute_join_of_isAbsolute _ hwork
  rw [htext, absolutize]
  refine normalize_eq_of_trail_eq (isAbsolute_join_of_isAbsolute _ hdir) hp ?_
  rw [trail_join hrel, hbody, trail_join_name _ (hall s List.mem_cons_self), foldl_descend_name,
    htrail]
  simp

/-- The way from a directory to a path goes up once for each component of the directory beyond what
it has in common with the path, and then down by names. It is empty just if both lead to one place,
and it leads from the directory to the path. So does the reference written for the directory, unless
a backslash in the path is taken for a separator; a reference that is written for no directory leads
there from the first directory on the way. -/
theorem relativeTo_leadsBack (hp : p.isAbsolute = true) (hbase : base.isAbsolute = true) :
    (p.relativeTo base).isAbsolute = false ∧
      (∃ (common up : List Component) (down : List String),
        IsCommonStart common p.normalize.components base.normalize.components ∧
          base.normalize.components = common ++ up ∧
          p.normalize.components = common ++ down.map .name ∧
          (p.relativeTo base).components =
            List.replicate up.length Component.parent ++ down.map .name) ∧
      (p.relativeTo base = empty ↔ p.normalize = base.normalize) ∧
      (p.relativeTo base).absolutize base = p.normalize ∧
      ('\\' ∉ p.text.toList → ∀ (workDir : Path) (journal : Journal),
        absolutize ⟨(referencePath p (some base) workDir journal).1⟩ base = p.normalize ∧
          ∀ (s : String) (c : Component) (rest : List Component), workDir.isAbsolute = true →
            p.normalize.components = workDir.normalize.components ++ .name s :: c :: rest →
            absolutize ⟨(referencePath p none workDir journal).1⟩ (workDir.join ⟨s⟩) =
              p.normalize) := by
  refine ⟨(relativeTo_spec hp hbase).1, relativeTo_steps hp hbase, relativeTo_eq_empty_iff hp hbase,
    absolutize_relativeTo_self hp hbase,
    fun hplain workDir journal => ⟨?_, fun s c rest hwork hbelow => ?_⟩⟩
  · exact absolutize_referencePath hp hbase hplain workDir journal
  · exact absolutize_referencePath_none hp hwork hplain hbelow journal

/-- The way to an image beside the stylesheets, with a directory of another name in between. -/
theorem relativeTo_leadsBack_image :
    let image : Path := ⟨"/site//dist/./img/a.png"⟩
    let css : Path := ⟨"/site/dist/x/../css/"⟩
    let workDir : Path := ⟨"/site/."⟩
    image.isAbsolute = true ∧ css.isAbsolute = true ∧ '\\' ∉ image.text.toList ∧
      workDir.isAbsolute = true ∧
      image.normalize.components =
        workDir.normalize.components ++ [.name "dist", .name "img", .name "a.png"] ∧
      (image.relativeTo css).text = "../img/a.png" ∧
      (image.relativeTo css).absolutize css = ⟨"/site/dist/img/a.png"⟩ ∧
      (referencePath image none workDir #[]).1 = "img/a.png" ∧
      absolutize ⟨(referencePath image none workDir #[]).1⟩ (workDir.join ⟨"dist"⟩) =
        image.normalize := by
  intro image css workDir
  have himage : image.isAbsolute = true := by decide
  have hcss : css.isAbsolute = true := by decide
  have hplain : '\\' ∉ image.text.toList := by decide
  have hwork : workDir.isAbsolute = true := by decide
  have hbelow : image.normalize.components =
      workDir.normalize.components ++ [.name "dist", .name "img", .name "a.png"] := by decide
  have hnormal : image.normalize = ⟨"/site/dist/img/a.png"⟩ := by decide
  obtain ⟨-, -, -, hback, hreferences⟩ := relativeTo_leadsBack himage hcss
  obtain ⟨-, hnone⟩ := hreferences hplain workDir #[]
  have hway : (image.relativeTo css).text = "../img/a.png" := by decide +kernel
  have htext : (referencePath image none workDir #[]).1 = "img/a.png" := by decide +kernel
  exact ⟨himage, hcss, hplain, hwork, hbelow, hway, hback.trans hnormal, htext,
    hnone _ _ _ hwork hbelow⟩

end Path

end StylesheetAssets
