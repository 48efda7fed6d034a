import StylesheetAssets.Disk.Operations
import StylesheetAssets.Proofs.Path.Directory

/-!
Where paths lead on a disk, and what its operations leave alone: every place but the one they were
asked to write.
-/
namespace StylesheetAssets.Disk

/-- The place that the steps of a path start from. -/
def startOf (d : Disk) (p : Path) : Location := if p.isAbsolute then [] else d.workDir.getD []

/-- The place that a path leads to, if it leads anywhere. -/
def placeOf (d : Disk) (p : Path) : Location :=
  (p.body.foldl Path.descend (d.startOf p).reverse).reverse

theorem startOf_join (d : Disk) (directory : Path) {p : Path} (h : p.isAbsolute = false) :
    d.startOf (directory.join p) = d.startOf directory := by
  rw [startOf, startOf, Path.isAbsolute_join h]

theorem placeOf_congr {d d' : Disk} (h : d'.workDir = d.workDir) (p : Path) :
    d'.placeOf p = d.placeOf p := by
  rw [placeOf, placeOf, startOf, startOf, h]

theorem placeOf_eq_of_same (d : Disk) {p q : Path} (h : p.same q = true) :
    d.placeOf p = d.placeOf q := by
  rw [placeOf, placeOf, startOf, startOf, Path.body_eq_of_same h, Path.isAbsolute_eq_of_same h]

def Target.place : Target → Location
  | .found l _ => l
  | .vacant l _ => l

/-- A walk ends where its names and its steps up lead. -/
theorem place_of_walk {d : Disk} {here : Location} {entry : Entry} {names : List String}
    {target : Target} (h : d.walk here entry names = .ok target) :
    target.place =
      ((Path.bodyComponents (names.map String.toList)).foldl Path.descend
        here.reverse).reverse := by
  have hidle {s : String} : s = "" ∨ s = "." ↔ Path.IsIdle s.toList := by
    rw [Path.IsIdle, ← String.toList_inj, ← String.toList_inj]
    rfl
  have hdown (here : Location) (s : String) :
      Path.descend here.reverse (.name s) = (here ++ [s]).reverse := List.reverse_concat.symm
  fun_induction walk d here entry names with
  | case1 here entry =>
    cases h
    exact here.reverse_reverse.symm
  | case2 => cases h
  | case3 here piece rest hpiece ih =>
    rw [List.map_cons, Path.bodyComponents_cons_of_isIdle _ (hidle.1 hpiece)]
    exact ih h
  | case4 here rest _ ih =>
    have hup : Path.descend here.reverse .parent = here.dropLast.reverse := List.tail_reverse
    rw [ih h, ← hup]
    rfl
  | case5 => cases h
  | case6 here piece rest hpiece hparent _ next entry _ ih =>
    rw [ih h, List.map_cons, Path.bodyComponents_cons_name _ (mt hidle.2 hpiece) hparent,
      List.foldl_cons, hdown]
  | case7 here piece rest hpiece hparent _ next _ hend =>
    cases h
    have hrest : Path.bodyComponents (rest.map String.toList) = [] := by
      refine Path.bodyComponents_eq_nil fun p hp => ?_
      obtain ⟨s, hs, rfl⟩ := List.mem_map.1 hp
      exact hidle.1 (.inl (by simpa using List.all_eq_true.1 hend s hs))
    rw [List.map_cons, Path.bodyComponents_cons_name _ (mt hidle.2 hpiece) hparent, hrest,
      List.foldl_cons, List.foldl_nil, hdown, List.reverse_reverse]
    rfl
  | case8 => cases h

theorem walk_of_resolve {d : Disk} {p : Path} {target : Target} (h : d.resolve p = .ok target) :
    d.walk (d.startOf p) .directory (p.pieces.map String.ofList) = .ok target := by
  unfold resolve at h
  unfold startOf
  split_ifs at h with _ _ _ habs
  · rwa [if_pos habs]
  · split at h
    · next l hl =>
      rwa [if_neg habs, hl]
    · cases h

theorem toList_pieces (p : Path) :
    (p.pieces.map String.ofList).map String.toList = p.pieces := by
  rw [List.map_map]
  exact (List.map_congr_left fun _ _ => String.toList_ofList).trans (List.map_id _)

theorem place_of_resolve {d : Disk} {p : Path} {target : Target} (h : d.resolve p = .ok target) :
    target.place = d.placeOf p := by
  rw [place_of_walk (walk_of_resolve h), toList_pieces]
  rfl

/-- A place is vacant only where nothing lies. -/
theorem get?_of_vacant {d : Disk} {here l : Location} {entry : Entry} {pieces : List String}
    {asDirectory : Bool} (h : d.walk here entry pieces = .ok (.vacant l asDirectory)) :
    d.get? l = none := by
  fun_induction walk d here entry pieces with
  | case1 => cases h
  | case2 => cases h
  | case3 here piece rest hidle ih => exact ih h
  | case4 here rest _ ih => exact ih h
  | case5 => cases h
  | case6 here piece rest _ _ _ next entry hget ih => exact ih h
  | case7 here piece rest _ _ _ next hnone =>
    simp only [Except.ok.injEq, Target.vacant.injEq] at h
    rwa [← h.1]
  | case8 => cases h

theorem mem_entries_of_get? {d : Disk} {l : Location} {bytes : ByteArray}
    (h : d.get? l = some (.file bytes)) : (l, .file bytes) ∈ d.entries := by
  unfold get? at h
  split at h
  · cases h
  · obtain ⟨front, back, hentries, -⟩ := List.lookup_eq_some_iff.1 h
    rw [hentries]
    exact List.mem_append_right front List.mem_cons_self

theorem get?_of_walk {d : Disk} {here l : Location} {entry : Entry} {pieces : List String}
    {bytes : ByteArray} (h : d.walk here entry pieces = .ok (.found l (.file bytes)))
    (hentry : entry = .directory ∨ d.get? here = some entry) : d.get? l = some (.file bytes) := by
  fun_induction walk d here entry pieces with
  | case1 here entry =>
    cases h
    simpa using hentry
  | case2 => cases h
  | case3 here piece rest hidle ih => exact ih h (.inl rfl)
  | case4 here rest _ ih => exact ih h (.inl rfl)
  | case5 => cases h
  | case6 here piece rest _ _ _ next entry hget ih => exact ih h (.inr hget)
  | case7 => cases h
  | case8 => cases h

theorem get?_of_resolve {d : Disk} {p : Path} {l : Location} {bytes : ByteArray}
    (h : d.resolve p = .ok (.found l (.file bytes))) : d.get? l = some (.file bytes) :=
  get?_of_walk (walk_of_resolve h) (.inl rfl)

theorem openFile_eq_ok {d : Disk} {p : Path} {l : Location} {bytes : ByteArray} :
    d.openFile p = .ok (l, bytes) ↔ d.resolve p = .ok (.found l (.file bytes)) := by
  unfold openFile
  rcases d.resolve p with e | ⟨l', (bytes' | -)⟩ | ⟨l', asDirectory⟩ <;> simp

theorem readFile_eq_ok {d : Disk} {p : Path} {bytes : ByteArray} :
    d.readFile p = .ok bytes ↔ ∃ l, d.resolve p = .ok (.found l (.file bytes)) := by
  unfold readFile
  simp only [← openFile_eq_ok]
  rcases d.openFile p with e | ⟨l, bytes'⟩ <;> simp [Except.map]

theorem readText_eq_ok {d : Disk} {p : Path} {text : String} :
    d.readText p = .ok text ↔ ∃ bytes, d.readFile p = .ok bytes ∧ decode bytes = .ok text := by
  rw [readText]
  rcases d.readFile p with e | bytes <;> simp [bind, Except.bind]

theorem readText_eq_ok_iff_openFile {d : Disk} {p : Path} {text : String} :
    d.readText p = .ok text ↔
      ∃ l bytes, d.openFile p = .ok (l, bytes) ∧ decode bytes = .ok text := by
  rw [readText_eq_ok, exists_comm]
  simp only [readFile_eq_ok, openFile_eq_ok, exists_and_right]

/-- What is opened lies on the disk. -/
theorem get?_of_openFile {d : Disk} {p : Path} {l : Location} {bytes : ByteArray}
    (h : d.openFile p = .ok (l, bytes)) : d.get? l = some (.file bytes) :=
  get?_of_resolve (openFile_eq_ok.1 h)

theorem get?_put_of_ne {d : Disk} {l k : Location} (e : Entry) (h : k ≠ l) :
    (d.put l e).get? k = d.get? k := by
  have hlookup : (d.entries.filter (·.1 ≠ l)).lookup k = d.entries.lookup k := by
    induction d.entries with
    | nil => rfl
    | cons entry entries ih =>
      obtain ⟨m, e'⟩ := entry
      by_cases hm : m = l
      · rw [List.filter_cons_of_neg (by simp [hm]), ih, List.lookup_cons,
          beq_eq_false_iff_ne.2 (hm ▸ h)]
      · rw [List.filter_cons_of_pos (by simp [hm]), List.lookup_cons, List.lookup_cons, ih]
  unfold put get?
  rw [List.lookup_cons, beq_eq_false_iff_ne.2 h, hlookup]

/-- The root is a directory, so it is not where something is put. -/
theorem ne_nil_of_get? {d : Disk} {l : Location} (h : d.get? l ≠ some .directory) : l ≠ [] := by
  rintro rfl
  exact h rfl

theorem get?_put_self {d : Disk} {l : Location} (e : Entry) (h : l ≠ []) :
    (d.put l e).get? l = some e := by
  simp [put, get?, h]

/-! ### Operations -/

theorem place_of_writable {d : Disk} {p : Path} {l : Location} (h : d.writable p = .ok l) :
    d.placeOf p = l := by
  unfold writable at h
  split at h
  · next hfound =>
    cases h
    exact (place_of_resolve hfound).symm
  · cases h
  · next hvacant =>
    split_ifs at h
    cases h
    exact (place_of_resolve hvacant).symm
  · cases h

/-- Nothing is written over a directory. -/
theorem get?_ne_of_writable {d : Disk} {p : Path} {l : Location} (h : d.writable p = .ok l) :
    d.get? l ≠ some .directory := by
  unfold writable at h
  split at h
  · next hfound =>
    cases h
    simp [get?_of_resolve hfound]
  · cases h
  · next hvacant =>
    split_ifs at h
    cases h
    simp [get?_of_vacant (walk_of_resolve hvacant)]
  · cases h

/-- A copy leaves everything as it was but its destination. -/
theorem get?_copyFile {d : Disk} {l : Location} (source : Path) {destination : Path}
    (h : l ≠ d.placeOf destination) : (d.copyFile source destination).2.get? l = d.get? l := by
  unfold copyFile
  split
  · rfl
  · rfl
  · rfl
  · split
    · rfl
    · next target htarget =>
      rw [place_of_writable htarget] at h
      dsimp only
      split
      · rw [get?_put_of_ne _ h, get?_put_of_ne _ h]
      · rw [get?_put_of_ne _ h]

/-- No copy is made over a directory. -/
theorem get?_copyFile_directory {d : Disk} {l : Location} (source destination : Path)
    (h : d.get? l = some .directory) :
    (d.copyFile source destination).2.get? l = some .directory := by
  by_cases hplace : l = d.placeOf destination
  · have hwritable : ∀ target, d.writable destination ≠ .ok target := by
      intro target htarget
      have hdirectory := get?_ne_of_writable htarget
      rw [← place_of_writable htarget, ← hplace] at hdirectory
      exact hdirectory h
    unfold copyFile
    split
    · exact h
    · exact h
    · exact h
    · split
      · exact h
      · next target htarget => exact absurd htarget (hwritable target)
  · rw [get?_copyFile source hplace, h]

/-- No copy makes a directory. -/
theorem get?_of_copyFile_directory {d : Disk} {l : Location} {source destination : Path}
    (h : (d.copyFile source destination).2.get? l = some .directory) :
    d.get? l = some .directory := by
  by_cases hplace : l = d.placeOf destination
  · unfold copyFile at h
    split at h
    · exact h
    · exact h
    · exact h
    · split at h
      · exact h
      · next target htarget =>
        have hroot := ne_nil_of_get? (get?_ne_of_writable htarget)
        rw [hplace, place_of_writable htarget] at h
        dsimp only at h
        split at h
        · rw [get?_put_self _ hroot] at h
          cases h
        · rw [get?_put_self _ hroot] at h
          cases h
  · rwa [get?_copyFile source hplace] at h

theorem workDir_copyFile (d : Disk) (source destination : Path) :
    (d.copyFile source destination).2.workDir = d.workDir := by
  unfold copyFile
  split
  · rfl
  · rfl
  · rfl
  · split
    · rfl
    · dsimp only
      split <;> rfl

/-! ### Disks that keep the directories of others -/

/-- What a path leads to that could be written: the file at its place or nothing. -/
def openTarget (d : Disk) (l : Location) : Target :=
  match d.get? l with
  | some e => .found l e
  | none => .vacant l false

theorem place_openTarget (d : Disk) (l : Location) : (d.openTarget l).place = l := by
  unfold openTarget
  split <;> rfl

theorem writable_of_resolve {d : Disk} {p : Path} {l : Location}
    (h : d.resolve p = .ok (d.openTarget l)) (hl : d.get? l ≠ some .directory) :
    d.writable p = .ok l := by
  rw [writable, h, openTarget]
  rcases he : d.get? l with - | (bytes | -)
  · rfl
  · rfl
  · exact absurd he hl

theorem walk_last {d : Disk} {here : Location} {piece : String}
    (hidle : ¬(piece = "" ∨ piece = ".")) (hparent : piece ≠ "..")
    (hshort : ¬maxName < piece.utf8ByteSize) :
    d.walk here .directory [piece] = .ok (d.openTarget (here ++ [piece])) := by
  rw [walk, if_neg hidle, if_neg hparent, if_neg hshort]
  simp only [openTarget]
  cases d.get? (here ++ [piece]) with
  | none => rfl
  | some e => rfl

section Later

variable {d d' : Disk}
  (hdirectories : ∀ l, d.get? l = some .directory → d'.get? l = some .directory) {l : Location}

include hdirectories

/-- The way to a place that could be written can still be gone. -/
theorem walk_open {here : Location} {pieces : List String} {target : Target}
    (h : d.walk here .directory pieces = .ok target)
    (hopen : (∃ old, target = .found l (.file old)) ∨ target = .vacant l false) :
    d'.walk here .directory pieces = .ok (d'.openTarget l) := by
  generalize hentry : Entry.directory = entry at h ⊢
  fun_induction walk d here entry pieces with
  | case1 here entry =>
    cases h
    subst hentry
    rcases hopen with ⟨old, hfound⟩ | hvacant
    · cases hfound
    · cases hvacant
  | case2 => cases hentry
  | case3 here piece rest hidle ih =>
    rw [walk, if_pos hidle]
    exact ih rfl h
  | case4 here rest hidle ih =>
    rw [walk, if_neg hidle, if_pos rfl]
    exact ih rfl h
  | case5 => cases h
  | case6 here piece rest hidle hparent hshort next entry hget ih =>
    cases entry with
    | directory =>
      rw [walk, if_neg hidle, if_neg hparent, if_neg hshort]
      have hnext : d'.get? (here ++ [piece]) = some .directory := hdirectories _ hget
      simp only [hnext]
      exact ih rfl h
    | file old =>
      cases rest with
      | nil =>
        obtain rfl : Target.found next (.file old) = target := by simpa [walk] using h
        obtain rfl : here ++ [piece] = l := by simpa using hopen
        exact walk_last hidle hparent hshort
      | cons => cases h
  | case7 here piece rest hidle hparent hshort next hnone hend =>
    cases h
    obtain ⟨rfl, rfl⟩ : here ++ [piece] = l ∧ rest = [] := by simpa using hopen
    exact walk_last hidle hparent hshort
  | case8 => cases h

theorem resolve_open {p : Path} {target : Target} (hworkDir : d'.workDir = d.workDir)
    (h : d.resolve p = .ok target)
    (hopen : (∃ old, target = .found l (.file old)) ∨ target = .vacant l false) :
    d'.resolve p = .ok (d'.openTarget l) := by
  have hwalk := walk_open hdirectories (walk_of_resolve h) hopen
  unfold resolve at h ⊢
  unfold startOf at hwalk
  rw [hworkDir]
  split_ifs at h ⊢ with _ _ _ habs
  · rwa [if_pos habs] at hwalk
  · split at h
    · next start hstart =>
      rwa [if_neg habs, hstart] at hwalk
    · cases h

/-- A path that could be written to leads to the file that lies there now, or to nothing. -/
theorem resolve_of_writable {p : Path} (hworkDir : d'.workDir = d.workDir)
    (h : d.writable p = .ok l) : d'.resolve p = .ok (d'.openTarget l) := by
  unfold writable at h
  split at h
  · next hfound =>
    cases h
    exact resolve_open hdirectories hworkDir hfound (.inl ⟨_, rfl⟩)
  · cases h
  · next asDirectory hvacant =>
    split_ifs at h with hdirectory
    cases h
    rw [eq_false_of_ne_true hdirectory] at hvacant
    exact resolve_open hdirectories hworkDir hvacant (.inr rfl)
  · cases h

/-- Unless a directory was put there, it can still be written to. -/
theorem writable_later {p : Path} (hworkDir : d'.workDir = d.workDir)
    (h : d.writable p = .ok l) (hl : d'.get? l ≠ some .directory) : d'.writable p = .ok l :=
  writable_of_resolve (resolve_of_writable hdirectories hworkDir h) hl

/-- What lies where a path could be written to is read through that path. -/
theorem readFile_of_writable {p : Path} {bytes : ByteArray}
    (hfile : d'.get? l = some (.file bytes)) (hworkDir : d'.workDir = d.workDir)
    (h : d.writable p = .ok l) : d'.readFile p = .ok bytes := by
  rw [readFile, openFile, resolve_of_writable hdirectories hworkDir h, openTarget, hfile]
  rfl

theorem readFile_later {p : Path} {bytes : ByteArray} (hfile : d'.get? l = some (.file bytes))
    (hworkDir : d'.workDir = d.workDir) (h : d.resolve p = .ok (.found l (.file bytes))) :
    d'.readFile p = .ok bytes :=
  readFile_of_writable hdirectories hfile hworkDir (by rw [writable, h])

end Later

/-! ### Directories that are made -/

/-- What a step that only adds directories to a disk leaves of it. -/
structure Extends (d d' : Disk) : Prop where
  workDir : d'.workDir = d.workDir
  kept : ∀ {l : Location} {e : Entry}, d.get? l = some e → d'.get? l = some e
  filed : ∀ {l : Location} {bytes : ByteArray},
    d'.get? l = some (.file bytes) → d.get? l = some (.file bytes)

theorem Extends.refl (d : Disk) : d.Extends d := ⟨rfl, id, id⟩

theorem Extends.trans {d d' d'' : Disk} (h : d.Extends d') (h' : d'.Extends d'') : d.Extends d'' :=
  ⟨h'.workDir.trans h.workDir, fun he => h'.kept (h.kept he), fun he => h.filed (h'.filed he)⟩

theorem extends_createDirectory (d : Disk) (p : Path) : d.Extends (d.createDirectory p).2 := by
  unfold createDirectory
  split
  · exact .refl d
  · next l asDirectory hvacant =>
    have hnone := get?_of_vacant (walk_of_resolve hvacant)
    have hroot : l ≠ [] := ne_nil_of_get? (d := d) (by simp [hnone])
    refine ⟨rfl, fun {k e} hk => ?_, fun {k bytes} hk => ?_⟩
    · have hne : k ≠ l := by
        rintro rfl
        rw [hnone] at hk
        cases hk
      rwa [get?_put_of_ne _ hne]
    · have hne : k ≠ l := by
        rintro rfl
        rw [get?_put_self _ hroot] at hk
        cases hk
      rwa [get?_put_of_ne _ hne] at hk
  · exact .refl d

theorem extends_of_createDirectory {d d' : Disk} {p : Path} {r : Except DiskError Unit}
    (h : d.createDirectory p = (r, d')) : d.Extends d' := by
  have hextends := extends_createDirectory d p
  rwa [h] at hextends

/-- Directories are made where nothing lies. -/
theorem extends_createAll (d : Disk) (ps : List Path) : d.Extends (d.createAll ps).2 := by
  fun_induction createAll d ps with
  | case1 d => exact .refl d
  | case2 d => exact .refl d
  | case3 d p above _ d' hmade => exact extends_of_createDirectory hmade
  | case4 d p above _ d' hmissing e d'' hfailed ih =>
    rw [hfailed] at ih
    exact (extends_of_createDirectory hmissing).trans ih
  | case5 d p above _ d' hmissing d'' habove d''' hmade ih =>
    rw [habove] at ih
    exact ((extends_of_createDirectory hmissing).trans ih).trans (extends_of_createDirectory hmade)
  | case6 d p above _ d' hmissing d'' habove e d''' hfailed ih =>
    rw [habove] at ih
    exact ((extends_of_createDirectory hmissing).trans ih).trans
      (extends_of_createDirectory hfailed)
  | case7 d p above _ e d' _ hfailed => exact extends_of_createDirectory hfailed

theorem extends_createDirectories (d : Disk) (p : Path) :
    d.Extends (d.createDirectories p).2 :=
  extends_createAll d _

end StylesheetAssets.Disk
