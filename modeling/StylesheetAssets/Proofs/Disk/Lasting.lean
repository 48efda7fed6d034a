import StylesheetAssets.Proofs.Disk.Holding
import StylesheetAssets.Proofs.Disk.Making

/-!
What an operation that succeeds says of the disk before it and after it, and what of that lasts: a
directory stays a directory, and a file stays a file.
-/
namespace StylesheetAssets

/-- The size that a disk reports. -/
def Entry.size : Entry → Nat
  | .file bytes => bytes.size
  | .directory => Disk.directorySize

namespace Disk

variable {d d' d'' : Disk} {p source destination : Path} {l : Location} {n : Nat}
  {bytes : ByteArray}

theorem size_eq_ok : d.size p = .ok n ↔ ∃ l e, d.resolve p = .ok (.found l e) ∧ e.size = n := by
  unfold size
  rcases d.resolve p with e | ⟨l, (bytes | -)⟩ | ⟨l, asDirectory⟩ <;> simp [Entry.size]

theorem writeFile_eq_ok : d.writeFile p bytes = (.ok (), d') ↔
    ∃ l, d.writable p = .ok l ∧ d' = d.put l (.file bytes) := by
  unfold writeFile
  rcases d.writable p with e | l <;> simp [eq_comm]

/-- Writing changes nothing outside of the place it writes to. -/
theorem get?_writeFile (bytes : ByteArray) (h : l ≠ d.placeOf p) :
    (d.writeFile p bytes).2.get? l = d.get? l := by
  unfold writeFile
  cases hwritable : d.writable p with
  | error e => rfl
  | ok k =>
    rw [place_of_writable hwritable] at h
    exact get?_put_of_ne _ h

theorem workDir_put (l : Location) (e : Entry) : (d.put l e).workDir = d.workDir := rfl

/-- What was written lies in its place. -/
theorem get?_of_writeFile (h : d.writeFile p bytes = (.ok (), d')) :
    d'.get? (d'.placeOf p) = some (.file bytes) := by
  obtain ⟨l, hl, rfl⟩ := writeFile_eq_ok.1 h
  rw [placeOf_congr (workDir_put l _), place_of_writable hl]
  exact get?_put_self _ (ne_nil_of_get? (get?_ne_of_writable hl))

/-- A copy that was made put some bytes at one place. -/
theorem exists_of_copyFile (h : d.copyFile source destination = (.ok n, d')) :
    ∃ l bytes, d.writable destination = .ok l ∧ d'.workDir = d.workDir ∧
      d'.get? l = some (.file bytes) ∧ ∀ k, k ≠ l → d'.get? k = d.get? k := by
  have hworkDir := workDir_copyFile d source destination
  have hplace {k : Location} (hk : k ≠ d.placeOf destination) := get?_copyFile source hk
  rw [h] at hworkDir hplace
  obtain ⟨-, l, hl⟩ := exists_copyFile_eq_ok.1 ⟨n, congrArg Prod.fst h⟩
  have hroot := ne_nil_of_get? (get?_ne_of_writable hl)
  rw [place_of_writable hl] at hplace
  unfold copyFile at h
  split at h
  · cases h
  · cases h
  · cases h
  · rw [hl] at h
    dsimp only at h
    split at h
    · next bytes _ =>
      cases h
      exact ⟨l, bytes, hl, hworkDir, get?_put_self _ hroot, fun k => hplace⟩
    · cases h
      exact ⟨l, .empty, hl, hworkDir, get?_put_self _ hroot, fun k => hplace⟩

/-- A copy from one place to another puts there what lies at the first. -/
theorem copyFile_of_apart {k : Location} (hsource : d.resolve source = .ok (.found k (.file bytes)))
    (hdestination : d.writable destination = .ok l) (hapart : k ≠ l) :
    ∃ d', d.copyFile source destination = (.ok bytes.size, d') ∧ d'.workDir = d.workDir ∧
      d'.get? l = some (.file bytes) ∧ ∀ m, m ≠ l → d'.get? m = d.get? m := by
  have hroot := ne_nil_of_get? (get?_ne_of_writable hdestination)
  have hkept : (d.put l (.file .empty)).get? k = some (.file bytes) := by
    rw [get?_put_of_ne _ hapart]
    exact get?_of_resolve hsource
  refine ⟨(d.put l (.file .empty)).put l (.file bytes), ?_, rfl, get?_put_self _ hroot,
    fun m hm => ?_⟩
  · unfold copyFile
    rw [hsource]
    dsimp only
    rw [hdestination]
    dsimp only
    rw [hkept]
  · rw [get?_put_of_ne _ hm, get?_put_of_ne _ hm]

/-- A copy that was made from one place to another. -/
theorem exists_of_copyFile_apart (h : d.copyFile source destination = (.ok n, d'))
    (hapart : d.placeOf source ≠ d.placeOf destination) :
    ∃ k l bytes, d.resolve source = .ok (.found k (.file bytes)) ∧ d.writable destination = .ok l ∧
      k ≠ l ∧ n = bytes.size ∧ d'.workDir = d.workDir ∧ d'.get? l = some (.file bytes) ∧
      ∀ m, m ≠ l → d'.get? m = d.get? m := by
  obtain ⟨⟨bytes, hread⟩, l, hl⟩ := exists_copyFile_eq_ok.1 ⟨n, congrArg Prod.fst h⟩
  obtain ⟨k, hk⟩ := readFile_eq_ok.1 hread
  have hne : k ≠ l := by
    have hplace : k = d.placeOf source := place_of_resolve hk
    rwa [hplace, ← place_of_writable hl]
  obtain ⟨d₁, hcopy, hworkDir, hfile, hothers⟩ := copyFile_of_apart hk hl hne
  obtain ⟨rfl, rfl⟩ : n = bytes.size ∧ d' = d₁ := by simpa using h.symm.trans hcopy
  exact ⟨k, l, bytes, hk, hl, hne, rfl, hworkDir, hfile, hothers⟩

/-! ### Directories that were made -/

theorem walk_made {here : Location} {entry : Entry} {pieces : List String} {asDirectory : Bool}
    (h : d.walk here entry pieces = .ok (.vacant l asDirectory)) :
    (d.put l .directory).walk here entry pieces = .ok (.found l .directory) := by
  have hnone := get?_of_vacant h
  have hroot : l ≠ [] := ne_nil_of_get? (d := d) (by simp [hnone])
  fun_induction walk d here entry pieces with
  | case1 => cases h
  | case2 => cases h
  | case3 here piece rest hidle ih =>
    rw [walk, if_pos hidle]
    exact ih h
  | case4 here rest hidle ih =>
    rw [walk, if_neg hidle, if_pos rfl]
    exact ih h
  | case5 => cases h
  | case6 here piece rest hidle hparent hshort next entry hget ih =>
    have hne : next ≠ l := by
      rintro rfl
      rw [hnone] at hget
      cases hget
    have hnext : (d.put l .directory).get? (here ++ [piece]) = some entry := by
      rwa [get?_put_of_ne _ hne]
    rw [walk, if_neg hidle, if_neg hparent, if_neg hshort]
    simp only [hnext]
    exact ih h
  | case7 here piece rest hidle hparent hshort next _ hend =>
    obtain ⟨rfl, -⟩ : next = l ∧ (!rest.isEmpty) = asDirectory := by simpa using h
    have hnext : (d.put next .directory).get? (here ++ [piece]) = some .directory :=
      get?_put_self _ hroot
    rw [walk, if_neg hidle, if_neg hparent, if_neg hshort]
    simp only [hnext]
    exact walk_idle fun s hs => .inl (by simpa using List.all_eq_true.1 hend s hs)
  | case8 => cases h

theorem resolve_of_createDirectory (h : d.createDirectory p = (.ok (), d')) :
    ∃ l, d'.resolve p = .ok (.found l .directory) := by
  unfold createDirectory at h
  split at h
  · cases h
  · next l asDirectory hvacant =>
    cases h
    refine ⟨l, ?_⟩
    rw [resolve_eq_walk hvacant (workDir_put l .directory)]
    exact walk_made (walk_of_resolve hvacant)
  · cases h

theorem resolve_of_leadsToDirectory (h : d.leadsToDirectory p = true) :
    ∃ l, d.resolve p = .ok (.found l .directory) := by
  unfold leadsToDirectory at h
  split at h
  · next l hl => exact ⟨l, hl⟩
  · cases h

theorem ancestors_eq (p : Path) : ∃ above, ancestors p = p :: above := by
  unfold ancestors
  cases p.components.length with
  | zero => exact ⟨[], rfl⟩
  | succ n =>
    rw [ancestors.go]
    cases p.parent? with
    | none => exact ⟨[], rfl⟩
    | some parent => exact ⟨_, rfl⟩

/-- Nothing is asked for, or there is a directory. -/
def Reaches (d : Disk) (p : Path) : Prop :=
  p.same .empty = true ∨ ∃ l, d.resolve p = .ok (.found l .directory)

theorem reaches_of_createAll {above : List Path} (h : d.createAll (p :: above) = (.ok (), d')) :
    d'.Reaches p := by
  have hleads {d : Disk} {e : DiskError}
      (h : ((if d.leadsToDirectory p then .ok () else .error e, d) : Except DiskError Unit × Disk) =
        (.ok (), d')) : d'.Reaches p := by
    split_ifs at h with hthere
    · cases h
      exact .inr (resolve_of_leadsToDirectory hthere)
    · cases h
  by_cases hempty : p.same .empty = true
  · exact .inl hempty
  · rw [createAll, if_neg hempty] at h
    split at h
    · next hmade =>
      cases h
      exact .inr (resolve_of_createDirectory hmade)
    · split at h
      · cases h
      · split at h
        · next hmade =>
          cases h
          exact .inr (resolve_of_createDirectory hmade)
        · exact hleads h
    · exact hleads h

/-- Directories that were made are there. -/
theorem reaches_of_createDirectories (h : d.createDirectories p = (.ok (), d')) : d'.Reaches p := by
  obtain ⟨above, habove⟩ := ancestors_eq p
  rw [createDirectories, habove] at h
  exact reaches_of_createAll h

/-- What is there is not made again. -/
theorem Reaches.createDirectories (h : d.Reaches p) : d.createDirectories p = (.ok (), d) := by
  obtain ⟨above, habove⟩ := ancestors_eq p
  rw [Disk.createDirectories, habove]
  rcases h with hempty | ⟨l, hl⟩
  · rw [createAll, if_pos hempty]
  · exact createAll_of_found hl

theorem Reaches.later (h : d.Reaches p) (hworkDir : d'.workDir = d.workDir)
    (hdirectories : ∀ l, d.get? l = some .directory → d'.get? l = some .directory) :
    d'.Reaches p :=
  h.imp_right fun ⟨l, hl⟩ => ⟨l, resolve_directory hworkDir hdirectories hl⟩

/-- What is asked for can be walked to, also if it is nothing. -/
theorem Reaches.walk (h : d.Reaches p) : ∃ l,
    d.walk (d.startOf p) .directory (p.pieces.map String.ofList) = .ok (.found l .directory) := by
  rcases h with hempty | ⟨l, hl⟩
  · have hbody : p.body = [] := Path.body_eq_of_same hempty
    refine ⟨d.startOf p, walk_idle fun s hs => ?_⟩
    obtain ⟨piece, hpiece, rfl⟩ := List.mem_map.1 hs
    have hidle := Path.ofPiece?_eq_none_iff.1 (List.filterMap_eq_nil_iff.1 hbody piece hpiece)
    rcases hidle with rfl | rfl
    · exact .inl rfl
    · exact .inr rfl
  · exact ⟨l, walk_of_resolve hl⟩

/-- A name that could be written in a directory on one disk can be on another one that has the
directory. -/
theorem Reaches.writable_join {dir : Path} {s : String} (hdir : d.Reaches dir)
    (hs : Path.IsName s) (h : d'.writable (dir.join ⟨s⟩) = .ok l)
    (hworkDir : d.workDir = d'.workDir) (hl : d.get? l ≠ some .directory) :
    d.writable (dir.join ⟨s⟩) = .ok l := by
  obtain ⟨target, htarget⟩ : ∃ target, d'.resolve (dir.join ⟨s⟩) = .ok target := by
    rw [writable] at h
    cases hresolve : d'.resolve (dir.join ⟨s⟩) with
    | ok target => exact ⟨target, rfl⟩
    | error e =>
      rw [hresolve] at h
      cases h
  obtain ⟨above, habove⟩ := hdir.walk
  have hresolve := resolve_join_of_walk hs habove htarget hworkDir
  have hplace : above ++ [s] = l := by
    rw [← place_of_writable h, ← placeOf_congr hworkDir, ← place_of_resolve hresolve,
      place_openTarget]
  rw [hplace] at hresolve
  exact writable_of_resolve hresolve hl

/-! ### What lasts -/

/-- The same disk at a later time. -/
structure Later (d d' : Disk) : Prop where
  workDir : d'.workDir = d.workDir
  directories : ∀ l, d.get? l = some .directory → d'.get? l = some .directory
  files : ∀ {l : Location} {bytes : ByteArray}, d.get? l = some (.file bytes) →
    ∃ bytes', d'.get? l = some (.file bytes')

namespace Later

theorem refl (d : Disk) : d.Later d := ⟨rfl, fun _ => id, fun h => ⟨_, h⟩⟩

theorem trans (h : d.Later d') (h' : d'.Later d'') : d.Later d'' := by
  refine ⟨h'.workDir.trans h.workDir, fun l hl => h'.directories l (h.directories l hl),
    fun hl => ?_⟩
  obtain ⟨bytes, hfile⟩ := h.files hl
  exact h'.files hfile

theorem of_extends (h : d.Extends d') : d.Later d' :=
  ⟨h.workDir, fun _ => h.kept, fun hl => ⟨_, h.kept hl⟩⟩

/-- A file in a place where there was no directory. -/
theorem of_file (hworkDir : d'.workDir = d.workDir) (hfile : d'.get? l = some (.file bytes))
    (hl : d.get? l ≠ some .directory) (hothers : ∀ k, k ≠ l → d'.get? k = d.get? k) :
    d.Later d' := by
  refine ⟨hworkDir, fun k hk => ?_, fun {k old} hk => ?_⟩
  · rwa [hothers k]
    rintro rfl
    exact hl hk
  · by_cases hkl : k = l
    · exact ⟨bytes, by rw [hkl, hfile]⟩
    · exact ⟨old, by rw [hothers k hkl, hk]⟩

end Later

end Disk

end StylesheetAssets
