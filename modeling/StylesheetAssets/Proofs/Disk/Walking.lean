import StylesheetAssets.Proofs.Disk.Place
import StylesheetAssets.Proofs.Path.Canonical

/-!
Walks on a disk and on others that hold the same things on the way.
-/
namespace StylesheetAssets

/-- A canonical path leads to the same place on all disks. -/
theorem Path.IsCanonical.placeOf_eq {p : Path} (h : p.IsCanonical) (d : Disk) :
    d.placeOf p = p.trail.reverse := by
  rw [Disk.placeOf, Disk.startOf, if_pos h.absolute]
  rfl

/-- Canonical paths that lead to one place are one path. -/
theorem Path.IsCanonical.eq_of_placeOf_eq {p q : Path} {d : Disk} (hp : p.IsCanonical)
    (hq : q.IsCanonical) (h : d.placeOf p = d.placeOf q) : p = q := by
  refine hp.eq_of_trail_eq hq ?_
  rwa [hp.placeOf_eq, hq.placeOf_eq, List.reverse_inj] at h

namespace Disk

/-- Whatever lies on the disk lies in a directory, and relative paths start from one. -/
structure IsTree (d : Disk) : Prop where
  inside : ∀ l s e, d.get? (l ++ [s]) = some e → d.get? l = some .directory
  workDir : ∀ l, d.workDir = some l → d.get? l = some .directory

/-- This can be told from the entries. -/
theorem isTree_of_entries {d : Disk}
    (h : ∀ entry ∈ d.entries, d.get? entry.1.dropLast = some .directory)
    (hworkDir : ∀ l ∈ d.workDir, d.get? l = some .directory) : d.IsTree := by
  refine ⟨fun l s e he => ?_, hworkDir⟩
  rw [get?, if_neg (by simp)] at he
  obtain ⟨front, back, hentries, -⟩ := List.lookup_eq_some_iff.1 he
  have hentry := h (l ++ [s], e) (by simp [hentries])
  rwa [List.dropLast_concat] at hentry

/-- What lies above something is a directory. -/
theorem IsTree.above {d : Disk} (h : d.IsTree) {l names : Location} {e : Entry} (hne : names ≠ [])
    (he : d.get? (l ++ names) = some e) : d.get? l = some .directory := by
  induction names using List.reverseRecOn generalizing e with
  | nil => exact absurd rfl hne
  | append_singleton names s ih =>
    rw [← List.append_assoc] at he
    have hmiddle := h.inside _ _ _ he
    cases names with
    | nil => rwa [List.append_nil] at hmiddle
    | cons t names => exact ih (by simp) hmiddle

theorem get?_nil (d : Disk) : d.get? [] = some .directory := by simp [get?]

theorem isIdle_toList {s : String} (h : s = "" ∨ s = ".") : Path.IsIdle s.toList := by
  rcases h with rfl | rfl
  · exact .inl rfl
  · exact .inr rfl

theorem not_isIdle_toList {s : String} (h : ¬(s = "" ∨ s = ".")) : ¬Path.IsIdle s.toList := by
  rintro (hempty | hdot)
  · exact h (.inl (String.toList_inj.1 hempty))
  · exact h (.inr (String.toList_inj.1 hdot))

/-- A path that a disk can start to follow. -/
structure Followable (d : Disk) (p : Path) : Prop where
  plain : '\x00' ∉ p.text.toList
  nonempty : p.text ≠ ""
  short : p.text.utf8ByteSize ≤ maxPath
  started : p.isAbsolute = true ∨ d.workDir ≠ none

theorem followable_of_resolve {d : Disk} {p : Path} {target : Target}
    (h : d.resolve p = .ok target) : d.Followable p := by
  unfold resolve at h
  split_ifs at h with hplain hempty hlong habs
  · exact ⟨by simpa using hplain, by simpa using hempty, Nat.not_lt.1 hlong, .inl habs⟩
  · split at h
    · next start hstart =>
      exact ⟨by simpa using hplain, by simpa using hempty, Nat.not_lt.1 hlong,
        .inr (by simp [hstart])⟩
    · cases h

theorem Followable.resolve_eq {d : Disk} {p : Path} (h : d.Followable p) :
    d.resolve p = d.walk (d.startOf p) .directory (p.pieces.map String.ofList) := by
  unfold resolve startOf
  rw [if_neg (by simpa using h.plain), if_neg (by simpa using h.nonempty),
    if_neg (Nat.not_lt.2 h.short)]
  split_ifs with habs
  · rfl
  · cases hworkDir : d.workDir with
    | none => exact absurd hworkDir (h.started.resolve_left habs)
    | some l => rfl

theorem Followable.congr {d d' : Disk} {p : Path} (h : d.Followable p)
    (hworkDir : d'.workDir = d.workDir) : d'.Followable p :=
  ⟨h.plain, h.nonempty, h.short, by rw [hworkDir]; exact h.started⟩

/-- What was followed once can be followed on every disk with the same working directory. -/
theorem resolve_eq_walk {d d' : Disk} {p : Path} {target : Target} (h : d.resolve p = .ok target)
    (hworkDir : d'.workDir = d.workDir) :
    d'.resolve p = d'.walk (d.startOf p) .directory (p.pieces.map String.ofList) := by
  rw [((followable_of_resolve h).congr hworkDir).resolve_eq, startOf, startOf, hworkDir]

/-- A walk goes on from where its first part arrives. -/
theorem walk_append {d : Disk} {here l : Location} {entry e : Entry} {ps : List String}
    (h : d.walk here entry ps = .ok (.found l e)) (qs : List String) :
    d.walk here entry (ps ++ qs) = d.walk l e qs := by
  fun_induction walk d here entry ps with
  | case1 here entry =>
    cases h
    rfl
  | case2 => cases h
  | case3 here piece rest hidle ih =>
    rw [List.cons_append, walk, if_pos hidle]
    exact ih h
  | case4 here rest hidle ih =>
    rw [List.cons_append, walk, if_neg hidle, if_pos rfl]
    exact ih h
  | case5 => cases h
  | case6 here piece rest hidle hparent hshort next entry hget ih =>
    rw [List.cons_append, walk, if_neg hidle, if_neg hparent, if_neg hshort]
    have hnext : d.get? (here ++ [piece]) = some entry := hget
    simp only [hnext]
    exact ih h
  | case7 => cases h
  | case8 => cases h

/-- What a walk finds behind a file is the file. -/
theorem walk_file {d : Disk} {here l : Location} {bytes : ByteArray} {e : Entry}
    {pieces : List String} (h : d.walk here (.file bytes) pieces = .ok (.found l e)) :
    pieces = [] ∧ l = here ∧ e = .file bytes := by
  cases pieces with
  | nil =>
    cases h
    exact ⟨rfl, rfl, rfl⟩
  | cons => cases h

/-- The way to a file ends with a name. -/
theorem getLast?_of_walk {d : Disk} {here l : Location} {bytes : ByteArray} {pieces : List String}
    (h : d.walk here .directory pieces = .ok (.found l (.file bytes))) :
    ∃ s, (Path.bodyComponents (pieces.map String.toList)).getLast? = some (.name s) := by
  generalize hentry : Entry.directory = entry at h
  fun_induction walk d here entry pieces with
  | case1 here entry =>
    subst hentry
    cases h
  | case2 => cases hentry
  | case3 here piece rest hidle ih =>
    rw [List.map_cons, Path.bodyComponents_cons_of_isIdle _ (isIdle_toList hidle)]
    exact ih rfl h
  | case4 here rest hidle ih =>
    obtain ⟨s, hs⟩ := ih rfl h
    have hup : Path.bodyComponents ((".." :: rest).map String.toList) =
        .parent :: Path.bodyComponents (rest.map String.toList) := rfl
    exact ⟨s, by rw [hup, List.getLast?_cons, hs, Option.getD_some]⟩
  | case5 => cases h
  | case6 here piece rest hidle hparent hshort next entry hget ih =>
    rw [List.map_cons, Path.bodyComponents_cons_name _ (not_isIdle_toList hidle) hparent]
    cases entry with
    | directory =>
      obtain ⟨s, hs⟩ := ih rfl h
      exact ⟨s, by rw [List.getLast?_cons, hs, Option.getD_some]⟩
    | file old =>
      obtain ⟨rfl, -, -⟩ := walk_file h
      exact ⟨piece, rfl⟩
  | case7 => cases h
  | case8 => cases h

theorem fileName?_of_resolve {d : Disk} {p : Path} {l : Location} {bytes : ByteArray}
    (h : d.resolve p = .ok (.found l (.file bytes))) : p.fileName? ≠ none := by
  obtain ⟨s, hs⟩ := getLast?_of_walk (walk_of_resolve h)
  have hlast : p.body.getLast? = some (.name s) := by rwa [toList_pieces] at hs
  simp [Path.fileName?, Path.components_eq, List.getLast?_append, hlast]

section Later

variable {d d' : Disk} {l : Location} {e : Entry}

/-- Where directories are kept, what a walk has found is found again. -/
theorem walk_found {here : Location} {pieces : List String}
    (hdirectories : ∀ l, d.get? l = some .directory → d'.get? l = some .directory)
    (hl : e ≠ .directory → d'.get? l = d.get? l)
    (h : d.walk here .directory pieces = .ok (.found l e)) :
    d'.walk here .directory pieces = .ok (.found l e) := by
  generalize hentry : Entry.directory = entry at h ⊢
  fun_induction walk d here entry pieces with
  | case1 here entry =>
    cases h
    rfl
  | case2 => cases hentry
  | case3 here piece rest hidle ih =>
    rw [walk, if_pos hidle]
    exact ih rfl h
  | case4 here rest hidle ih =>
    rw [walk, if_neg hidle, if_pos rfl]
    exact ih rfl h
  | case5 => cases h
  | case6 here piece rest hidle hparent hshort next entry hget ih =>
    rw [walk, if_neg hidle, if_neg hparent, if_neg hshort]
    cases entry with
    | directory =>
      have hnext : d'.get? (here ++ [piece]) = some .directory := hdirectories _ hget
      simp only [hnext]
      exact ih rfl h
    | file bytes =>
      obtain ⟨rfl, rfl, rfl⟩ := walk_file h
      have hnext : d'.get? (here ++ [piece]) = some (.file bytes) := (hl (by simp)).trans hget
      simp only [hnext]
      rfl
  | case7 => cases h
  | case8 => cases h

theorem resolve_found {p : Path} (hworkDir : d'.workDir = d.workDir)
    (hdirectories : ∀ l, d.get? l = some .directory → d'.get? l = some .directory)
    (hl : e ≠ .directory → d'.get? l = d.get? l) (h : d.resolve p = .ok (.found l e)) :
    d'.resolve p = .ok (.found l e) := by
  rw [resolve_eq_walk h hworkDir]
  exact walk_found hdirectories hl (walk_of_resolve h)

theorem resolve_directory {p : Path} (hworkDir : d'.workDir = d.workDir)
    (hdirectories : ∀ l, d.get? l = some .directory → d'.get? l = some .directory)
    (h : d.resolve p = .ok (.found l .directory)) : d'.resolve p = .ok (.found l .directory) :=
  resolve_found hworkDir hdirectories (fun hne => absurd rfl hne) h

/-- Steps down lead below where they start. -/
theorem place_of_names {here : Location} {entry : Entry} {pieces : List String} {target : Target}
    {names : List String}
    (hnames : Path.bodyComponents (pieces.map String.toList) = names.map .name)
    (h : d.walk here entry pieces = .ok target) : target.place = here ++ names := by
  rw [place_of_walk h, hnames, Path.foldl_descend_name, List.reverse_append, List.reverse_reverse,
    List.reverse_reverse]

/-- What is found by steps down lies on the disk. -/
theorem get?_of_names {here : Location} {entry : Entry} {pieces : List String}
    (hnames : ∃ names : List String,
      Path.bodyComponents (pieces.map String.toList) = names.map .name)
    (hentry : d.get? here = some entry) (h : d.walk here entry pieces = .ok (.found l e)) :
    d.get? l = some e := by
  fun_induction walk d here entry pieces with
  | case1 here entry =>
    cases h
    exact hentry
  | case2 => cases h
  | case3 here piece rest hidle ih =>
    rw [List.map_cons, Path.bodyComponents_cons_of_isIdle _ (isIdle_toList hidle)] at hnames
    exact ih hnames hentry h
  | case4 here rest hidle ih =>
    obtain ⟨names, hnames⟩ := hnames
    have hup : Path.bodyComponents ((".." :: rest).map String.toList) =
        .parent :: Path.bodyComponents (rest.map String.toList) := rfl
    rw [hup] at hnames
    cases names <;> cases hnames
  | case5 => cases h
  | case6 here piece rest hidle hparent hshort next entry hget ih =>
    obtain ⟨names, hnames⟩ := hnames
    rw [List.map_cons, Path.bodyComponents_cons_name _ (not_isIdle_toList hidle) hparent]
      at hnames
    cases names with
    | nil => cases hnames
    | cons name names => exact ih ⟨names, (List.cons.inj hnames).2⟩ hget h
  | case7 => cases h
  | case8 => cases h

/-- On a tree, a walk that does not go up after it went down needs nothing but what it finds. -/
theorem walk_upThenDown {here : Location} {pieces : List String}
    (hsteps : Path.UpThenDown (Path.bodyComponents (pieces.map String.toList)))
    (htree : d'.IsTree) (hl : d'.get? l = d.get? l)
    (h : d.walk here .directory pieces = .ok (.found l e)) :
    d'.walk here .directory pieces = .ok (.found l e) := by
  generalize hentry : Entry.directory = entry at h ⊢
  fun_induction walk d here entry pieces with
  | case1 here entry =>
    cases h
    rfl
  | case2 => cases hentry
  | case3 here piece rest hidle ih =>
    rw [walk, if_pos hidle]
    rw [List.map_cons, Path.bodyComponents_cons_of_isIdle _ (isIdle_toList hidle)] at hsteps
    exact ih hsteps rfl h
  | case4 here rest hidle ih =>
    rw [walk, if_neg hidle, if_pos rfl]
    exact ih hsteps.tail rfl h
  | case5 => cases h
  | case6 here piece rest hidle hparent hshort next entry hget ih =>
    rw [List.map_cons, Path.bodyComponents_cons_name _ (not_isIdle_toList hidle) hparent] at hsteps
    obtain ⟨down, hdown⟩ := hsteps.names
    have hplace : l = next ++ down := place_of_names hdown h
    rw [walk, if_neg hidle, if_neg hparent, if_neg hshort]
    cases entry with
    | directory =>
      have hnext : d'.get? (here ++ [piece]) = some .directory := by
        have hfound : d'.get? l = some e := hl.trans (get?_of_names ⟨down, hdown⟩ hget h)
        rw [hplace] at hfound
        by_cases hend : down = []
        · rw [hplace, hend, List.append_nil] at hl
          exact hl.trans hget
        · exact htree.above hend hfound
      simp only [hnext]
      exact ih ⟨0, down, hdown⟩ rfl h
    | file bytes =>
      obtain ⟨rfl, rfl, rfl⟩ := walk_file h
      have hnext : d'.get? (here ++ [piece]) = some (.file bytes) := hl.trans hget
      simp only [hnext]
      rfl
  | case7 => cases h
  | case8 => cases h

theorem resolve_upThenDown {p : Path} (hsteps : Path.UpThenDown p.body) (htree : d'.IsTree)
    (hworkDir : d'.workDir = d.workDir) (hl : d'.get? l = d.get? l)
    (h : d.resolve p = .ok (.found l e)) : d'.resolve p = .ok (.found l e) := by
  rw [resolve_eq_walk h hworkDir]
  exact walk_upThenDown (by rwa [toList_pieces]) htree hl (walk_of_resolve h)

end Later

end Disk

end StylesheetAssets
