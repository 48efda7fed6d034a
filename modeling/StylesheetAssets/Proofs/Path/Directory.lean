import StylesheetAssets.Proofs.Path.Resolution

/-!
Directories of paths: what is left of a path, and of the place it leads to, without the last name.
-/
namespace StylesheetAssets

theorem Text.joinWith_concat (separator : List Char) {ps : List (List Char)} (q : List Char)
    (h : ps ≠ []) : joinWith separator (ps ++ [q]) = joinWith separator ps ++ separator ++ q := by
  induction ps with
  | nil => exact absurd rfl h
  | cons p ps ih =>
    cases ps with
    | nil => rfl
    | cons r rs =>
      have hr := ih (by simp)
      simp only [List.cons_append] at hr
      simp [joinWith, hr]

theorem Text.getLast?_joinWith_concat (separator : List Char) (ps : List (List Char))
    {q : List Char} (h : q ≠ []) : (joinWith separator (ps ++ [q])).getLast? = q.getLast? := by
  cases ps with
  | nil => rfl
  | cons p ps =>
    rw [joinWith_concat _ _ (List.cons_ne_nil p ps), List.getLast?_append_of_ne_nil _ h]

namespace Path

theorem IsName.not_isIdle {s : String} (h : IsName s) : ¬IsIdle s.toList := by
  rintro (hempty | hdot)
  · exact h.1 hempty
  · exact h.2.1 (String.toList_inj.1 hdot)

theorem isAbsolute_of_isName {s : String} (h : IsName s) : isAbsolute ⟨s⟩ = false := by
  have hmem := List.mem_of_mem_head? (l := s.toList) (a := '/')
  simpa [isAbsolute] using fun hhead => h.2.2.2 (hmem hhead)

theorem not_mem_of_mem_map {names : List String} (h : ∀ s ∈ names, IsName s) {p : List Char}
    (hp : p ∈ names.map String.toList) : '/' ∉ p := by
  obtain ⟨s, hs, rfl⟩ := List.mem_map.1 hp
  exact (h s hs).2.2.2

/-- The text of a path from the root through some pieces. -/
def rooted (ps : List (List Char)) : Path := ⟨String.ofList ('/' :: Text.joinWith ['/'] ps)⟩

theorem rooted_join {ps : List (List Char)} {s : String}
    (hps : ∀ p ∈ ps, p ≠ [] ∧ '/' ∉ p) (hs : IsName s) :
    (rooted ps).join ⟨s⟩ = rooted (ps ++ [s.toList]) := by
  unfold join
  rw [if_neg (by simp [isAbsolute_of_isName hs])]
  rcases List.eq_nil_or_concat ps with rfl | ⟨qs, q, rfl⟩
  · simp [rooted, Text.joinWith]
  · obtain ⟨hq, hslash⟩ := hps q (by simp)
    have hlast := Text.getLast?_joinWith_concat ['/'] qs hq
    have hopen : ¬(rooted (qs ++ [q])).text.toList.getLast?.all (· = '/') = true := by
      obtain ⟨init, c, rfl⟩ := (List.eq_nil_or_concat q).resolve_left hq
      have hc : c ≠ '/' := fun h => hslash (by simp [h])
      rw [rooted, String.toList_ofList, List.getLast?_cons, hlast]
      simp [hc]
    rw [List.concat_eq_append, if_neg hopen]
    have hjoin : Text.joinWith ['/'] (qs ++ [q] ++ [s.toList]) =
        Text.joinWith ['/'] (qs ++ [q]) ++ ['/'] ++ s.toList :=
      Text.joinWith_concat _ _ (by simp)
    rw [rooted, rooted, hjoin]
    congr 1
    apply String.toList_inj.1
    simp

/-- The written form of a place. -/
theorem ofComponents_place {names : List String} (h : ∀ s ∈ names, IsName s) :
    ofComponents (place names) = rooted (names.reverse.map String.toList) := by
  induction names with
  | nil => rfl
  | cons s names ih =>
    have hnames : ∀ t ∈ names, IsName t := fun t ht => h t (List.mem_cons_of_mem s ht)
    have hpieces : ∀ p ∈ names.reverse.map String.toList, p ≠ [] ∧ '/' ∉ p := by
      intro p hp
      obtain ⟨t, ht, rfl⟩ := List.mem_map.1 hp
      have := hnames t (List.mem_reverse.1 ht)
      exact ⟨this.1, this.2.2.2⟩
    have hplace : ofComponents (place (s :: names)) = (ofComponents (place names)).join ⟨s⟩ := by
      simp [ofComponents, place, Component.text]
    rw [hplace, ih hnames, rooted_join hpieces (h s List.mem_cons_self)]
    simp

theorem isAbsolute_rooted (ps : List (List Char)) : (rooted ps).isAbsolute = true := by
  simp [rooted, isAbsolute]

theorem pieces_rooted {ps : List (List Char)} (hne : ps ≠ []) (h : ∀ p ∈ ps, '/' ∉ p) :
    (rooted ps).pieces = [] :: ps := by
  simp [rooted, pieces, Text.splitOn, Text.splitOn_joinWith hne h]

theorem ofPiece?_eq_name {s : String} (hidle : ¬IsIdle s.toList) (hparent : s ≠ "..") :
    Component.ofPiece? s.toList = some (.name s) := by
  have hne : s.toList ≠ ['.', '.'] := fun h => hparent (String.toList_inj.1 h)
  rw [Component.ofPiece?, if_neg (by exact hidle), if_neg hne, String.ofList_toList]

theorem bodyComponents_cons_name {s : String} (ps : List (List Char)) (hidle : ¬IsIdle s.toList)
    (hparent : s ≠ "..") : bodyComponents (s.toList :: ps) = .name s :: bodyComponents ps :=
  List.filterMap_cons_some (ofPiece?_eq_name hidle hparent)

theorem ofPiece?_of_isName {s : String} (h : IsName s) :
    Component.ofPiece? s.toList = some (.name s) :=
  ofPiece?_eq_name h.not_isIdle h.2.2.1

theorem body_rooted {names : List String} (h : ∀ s ∈ names, IsName s) :
    (rooted (names.map String.toList)).body = names.map .name := by
  cases names with
  | nil => rfl
  | cons t ts =>
    have hpiece : ∀ s ∈ t :: ts, Component.ofPiece? s.toList = some (.name s) :=
      fun s hs => ofPiece?_of_isName (h s hs)
    rw [body, pieces_rooted (by simp) fun p => not_mem_of_mem_map h,
      bodyComponents_cons_of_isIdle _ (.inl rfl), bodyComponents, List.filterMap_map]
    exact (List.filterMap_congr hpiece).trans (by simp)

/-- A place is where its written form leads. -/
theorem trail_ofComponents_place {names : List String} (h : ∀ s ∈ names, IsName s) :
    (ofComponents (place names)).trail = names := by
  have hfold : ∀ below : List String,
      (names.reverse.map Component.name).foldl descend below = names ++ below := by
    intro below
    simp only [List.foldl_map, descend]
    rw [List.foldl_reverse]
    induction names with
    | nil => rfl
    | cons s names ih => simp [ih fun t ht => h t (List.mem_cons_of_mem s ht)]
  rw [ofComponents_place h, trail, body_rooted (by simpa using h), hfold, List.append_nil]

/-! ### The parent of a path -/

/-- The start of a path and its meaningful pieces, against all of its pieces. -/
theorem significant_spec (p : Path) :
    ∃ start rest, p.pieces = start ++ rest ∧ p.significant = (start, dropIdle rest) ∧
      (∀ piece ∈ start, IsIdle piece) ∧ (p.isAbsolute = true → start = [[]]) := by
  obtain ⟨first, rest, hp⟩ := List.exists_cons_of_ne_nil (pieces_ne_nil p)
  by_cases habs : p.isAbsolute = true
  · obtain ⟨piece, others, hroot⟩ := isAbsolute_iff.1 habs
    obtain rfl : first = [] := by simp_all
    exact ⟨[[]], rest, hp, by simp [significant, hp, habs], by simp [IsIdle], by simp⟩
  · by_cases hdot : first = ['.']
    · refine ⟨[['.']], rest, by rw [hp, hdot]; rfl, by simp [significant, hp, hdot], ?_, ?_⟩
      · simp [IsIdle]
      · simp [habs]
    · exact ⟨[], first :: rest, hp, by simp [significant, hp, habs, hdot], by simp, by simp [habs]⟩

/-- The directory in terms of the meaningful pieces: all but the last, behind the same start. -/
theorem directory_eq {p : Path} {start ys : List (List Char)} {y : List Char}
    (h : p.significant = (start, ys ++ [y])) :
    p.directory = if p.isAbsolute ∧ dropIdle ys = [] then ⟨"/"⟩
      else ⟨String.ofList (Text.joinWith ['/'] (start ++ dropIdle ys))⟩ := by
  obtain ⟨z, zs, hz⟩ := List.exists_cons_of_ne_nil (List.append_ne_nil_of_right_ne_nil ys
    (List.cons_ne_nil y []))
  have hlast : (z :: zs).dropLast = ys := by rw [← hz, List.dropLast_concat]
  rw [hz] at h
  unfold directory parent?
  simp only [h, hlast]
  cases hd : dropIdle ys with
  | nil => by_cases habs : p.isAbsolute = true <;> simp [habs]
  | cons w ws => simp

theorem bodyComponents_eq_nil {ps : List (List Char)} (h : ∀ p ∈ ps, IsIdle p) :
    bodyComponents ps = [] :=
  List.filterMap_eq_nil_iff.2 fun p hp => ofPiece?_eq_none_iff.2 (h p hp)

/-- A path with a file name ends with it. -/
theorem getLast?_body_of_fileName? {p : Path} {s : String} (h : p.fileName? = some s) :
    p.body.getLast? = some (.name s) := by
  unfold fileName? at h
  split at h
  · next t hlast =>
    cases h
    rw [components_eq, List.getLast?_append] at hlast
    cases hbody : p.body.getLast? with
    | some c => simpa [hbody] using hlast
    | none =>
      rw [hbody] at hlast
      split_ifs at hlast <;> simp at hlast
  · cases h

/-- The last meaningful piece of a path with a file name is that name. -/
theorem significant_of_fileName? {p : Path} {s : String} (h : p.fileName? = some s) :
    ∃ start ys y, p.significant = (start, ys ++ [y]) ∧ p.body = bodyComponents ys ++ [.name s] ∧
      start ++ dropIdle ys <+: p.pieces ∧ (∀ piece ∈ start, IsIdle piece) ∧
      (p.isAbsolute = true → start = [[]]) := by
  obtain ⟨start, rest, hp, hsig, hidle, habs⟩ := significant_spec p
  have hbody : p.body = bodyComponents (dropIdle rest) := by
    rw [body, hp, bodyComponents_append, bodyComponents_eq_nil hidle, bodyComponents_dropIdle,
      List.nil_append]
  have hlast := getLast?_body_of_fileName? h
  have hne : dropIdle rest ≠ [] := fun hnil => by simp [hbody, hnil, bodyComponents] at hlast
  obtain ⟨ys, y, hy⟩ := (List.eq_nil_or_concat (dropIdle rest)).resolve_left hne
  rw [List.concat_eq_append] at hy
  refine ⟨start, ys, y, by rw [hsig, hy], ?_, ?_, hidle, habs⟩
  · obtain ⟨c, hc⟩ := Option.ne_none_iff_exists'.1 (mt ofPiece?_eq_none_iff.1
      (not_isIdle_of_dropIdle hy))
    have hcs : p.body = bodyComponents ys ++ [c] := by
      rw [hbody, hy, bodyComponents_append]
      simp [bodyComponents, hc]
    rw [hcs] at hlast ⊢
    simpa using hlast
  · have hys : ys <+: rest := (List.prefix_append ys [y]).trans (hy ▸ dropIdle_isPrefix rest)
    rw [hp]
    exact (List.prefix_append_right_inj start).2 ((dropIdle_isPrefix ys).trans hys)

/-- The first pieces of a path are absolute if it is, unless only the root is left. -/
theorem isAbsolute_eq_of_pieces {p q : Path} {start ds : List (List Char)}
    (hq : q.pieces = start ++ ds) (hleft : start ++ ds <+: p.pieces)
    (habs : p.isAbsolute = true → start = [[]] ∧ ds ≠ []) : q.isAbsolute = p.isAbsolute := by
  apply Bool.eq_iff_iff.2
  constructor
  · intro h
    obtain ⟨piece, pieces, hpieces⟩ := isAbsolute_iff.1 h
    obtain ⟨more, hmore⟩ := hleft
    exact isAbsolute_iff.2 ⟨piece, pieces ++ more, by rw [← hmore, ← hq, hpieces]; rfl⟩
  · intro h
    obtain ⟨rfl, hds⟩ := habs h
    obtain ⟨z, zs, rfl⟩ := List.exists_cons_of_ne_nil hds
    exact isAbsolute_iff.2 ⟨z, zs, hq⟩

/-- The directory of a file starts where the path starts, and lacks only its last name. -/
theorem directory_spec {p : Path} {s : String} (h : p.fileName? = some s) :
    p.directory.isAbsolute = p.isAbsolute ∧ p.body = p.directory.body ++ [.name s] := by
  obtain ⟨start, ys, y, hsig, hbody, hleft, hidle, habs⟩ := significant_of_fileName? h
  rw [hbody, List.append_left_inj, ← bodyComponents_dropIdle ys, directory_eq hsig]
  split_ifs with hroot
  · rw [hroot.1, hroot.2]
    exact ⟨rfl, rfl⟩
  · by_cases hnil : start ++ dropIdle ys = []
    · obtain ⟨hstart, hdrop⟩ := List.append_eq_nil_iff.1 hnil
      have hrel : p.isAbsolute = false := by
        by_contra htrue
        simp [habs (by simpa using htrue)] at hstart
      rw [hnil, hdrop, hrel]
      exact ⟨rfl, rfl⟩
    · have hpieces := pieces_joinWith hnil fun piece hmem =>
        not_mem_of_mem_pieces (hleft.subset hmem)
      refine ⟨isAbsolute_eq_of_pieces hpieces hleft fun htrue => ?_, ?_⟩
      · exact ⟨habs htrue, fun hdrop => hroot ⟨htrue, hdrop⟩⟩
      · rw [body, hpieces, bodyComponents_append, bodyComponents_eq_nil hidle, List.nil_append]

/-! ### Places of absolute paths -/

theorem isAbsolute_ofComponents_place {names : List String} (h : ∀ s ∈ names, IsName s) :
    (ofComponents (place names)).isAbsolute = true := by
  rw [ofComponents_place h, isAbsolute_rooted]

theorem directory_ofComponents_place {s : String} {names : List String}
    (h : ∀ t ∈ s :: names, IsName t) :
    (ofComponents (place (s :: names))).directory = ofComponents (place names) := by
  have hnames : ∀ t ∈ names, IsName t := fun t ht => h t (List.mem_cons_of_mem s ht)
  set ps := names.reverse.map String.toList with hps
  have hslash : ∀ p ∈ ps ++ [s.toList], '/' ∉ p := by
    have hmap : ps ++ [s.toList] = (names.reverse ++ [s]).map String.toList := by simp [hps]
    rw [hmap]
    exact fun p => not_mem_of_mem_map fun t ht => h t (by simpa [or_comm] using ht)
  have hdrop : dropIdle ps = ps := by
    cases names with
    | nil => rfl
    | cons t ts =>
      have hlast : ps = ts.reverse.map String.toList ++ [t.toList] := by simp [hps]
      rw [hlast, dropIdle_concat _ (hnames t List.mem_cons_self).not_isIdle]
  have hwritten : ofComponents (place (s :: names)) = rooted (ps ++ [s.toList]) := by
    rw [ofComponents_place h]
    simp [hps]
  have hsig : (rooted (ps ++ [s.toList])).significant = ([[]], ps ++ [s.toList]) := by
    simp [significant, pieces_rooted (by simp) hslash, isAbsolute_rooted,
      dropIdle_concat ps (h s List.mem_cons_self).not_isIdle]
  rw [hwritten, directory_eq hsig, hdrop, isAbsolute_rooted, ofComponents_place hnames, ← hps]
  split_ifs with hroot
  · rw [hroot.2]
    rfl
  · obtain ⟨z, zs, hz⟩ := List.exists_cons_of_ne_nil fun hnil => hroot ⟨rfl, hnil⟩
    simp [rooted, hz, Text.joinWith]

theorem isAbsolute_normalize {p : Path} (h : p.isAbsolute = true) :
    p.normalize.isAbsolute = true := by
  rw [normalize_of_isAbsolute h]
  exact isAbsolute_ofComponents_place fun _ => isName_of_mem_trail

theorem trail_normalize {p : Path} (h : p.isAbsolute = true) : p.normalize.trail = p.trail := by
  rw [normalize_of_isAbsolute h]
  exact trail_ofComponents_place fun _ => isName_of_mem_trail

/-- Absolute paths have one normal form when they lead to one place. -/
theorem normalize_eq_of_trail_eq {p q : Path} (hp : p.isAbsolute = true) (hq : q.isAbsolute = true)
    (h : p.trail = q.trail) : p.normalize = q.normalize := by
  rw [normalize_of_isAbsolute hp, normalize_of_isAbsolute hq, h]

theorem normalize_normalize {p : Path} (h : p.isAbsolute = true) :
    p.normalize.normalize = p.normalize :=
  normalize_eq_of_trail_eq (isAbsolute_normalize h) h (trail_normalize h)

theorem isAbsolute_join_of_isAbsolute {p : Path} (q : Path) (h : p.isAbsolute = true) :
    (p.join q).isAbsolute = true := by
  by_cases hq : q.isAbsolute = true
  · rwa [join_of_isAbsolute hq]
  · rw [isAbsolute_join (by simpa using hq), h]

/-- Only the place of a base matters to what is resolved against it. -/
theorem normalize_join_congr {b c : Path} (q : Path) (hb : b.isAbsolute = true)
    (hc : c.isAbsolute = true) (h : b.normalize = c.normalize) :
    (b.join q).normalize = (c.join q).normalize := by
  by_cases hq : q.isAbsolute = true
  · rw [join_of_isAbsolute hq, join_of_isAbsolute hq]
  · have hrel : q.isAbsolute = false := by simpa using hq
    have htrail : b.trail = c.trail := by rw [← trail_normalize hb, h, trail_normalize hc]
    apply normalize_eq_of_trail_eq (isAbsolute_join_of_isAbsolute q hb)
      (isAbsolute_join_of_isAbsolute q hc)
    rw [trail_join hrel, trail_join hrel, htrail]

/-- Two steps taken one after the other, or joined first. -/
theorem normalize_join_join {b : Path} (p q : Path) (hb : b.isAbsolute = true) :
    (b.join (p.join q)).normalize = ((b.join p).join q).normalize := by
  by_cases hq : q.isAbsolute = true
  · simp only [join_of_isAbsolute hq]
  · have hrel : q.isAbsolute = false := by simpa using hq
    by_cases hp : p.isAbsolute = true
    · rw [join_of_isAbsolute (isAbsolute_join_of_isAbsolute q hp), join_of_isAbsolute hp]
    · have hrel' : p.isAbsolute = false := by simpa using hp
      apply normalize_eq_of_trail_eq (isAbsolute_join_of_isAbsolute _ hb)
        (isAbsolute_join_of_isAbsolute _ (isAbsolute_join_of_isAbsolute _ hb))
      rw [trail_join ((isAbsolute_join hrel).trans hrel'), trail_join hrel, trail_join hrel',
        body_join hrel, List.foldl_append]

/-- The directory of the file that a path leads to is where the path's own directory leads. -/
theorem directory_absolutize {p base : Path} {s : String} (hb : base.isAbsolute = true)
    (h : p.fileName? = some s) :
    (p.absolutize base).directory = (base.join p.directory).normalize := by
  obtain ⟨habs, hbody⟩ := directory_spec h
  have htrail : (base.join p).trail = s :: (base.join p.directory).trail := by
    by_cases hp : p.isAbsolute = true
    · rw [join_of_isAbsolute hp, join_of_isAbsolute (habs.trans hp), trail, hbody,
        List.foldl_append]
      rfl
    · have hrel : p.isAbsolute = false := by simpa using hp
      rw [trail_join hrel, trail_join (habs.trans hrel), hbody, List.foldl_append]
      rfl
  rw [absolutize, normalize_of_isAbsolute (isAbsolute_join_of_isAbsolute p hb), htrail,
    directory_ofComponents_place, normalize_of_isAbsolute (isAbsolute_join_of_isAbsolute _ hb)]
  rw [← htrail]
  exact fun _ => isName_of_mem_trail

end Path

end StylesheetAssets
