import StylesheetAssets.Proofs.Disk.Lasting

/-!
Changes that stay within bounds: files are written only in places that are open to files, and
directories are made only in places that are open to directories. Nothing is ever taken away.
-/
namespace StylesheetAssets.Disk

/-- The places in which files may be written, and those in which directories may be made. -/
structure Bounds where
  file : Location → Prop
  directory : Location → Prop

/-- The same disk at a later time, with no change outside the bounds. -/
structure ChangesWithin (b : Bounds) (d d' : Disk) : Prop where
  later : d.Later d'
  files : ∀ {l : Location} {bytes : ByteArray}, d'.get? l = some (.file bytes) →
    d.get? l = some (.file bytes) ∨ b.file l
  directories : ∀ {l : Location}, d'.get? l = some .directory →
    d.get? l = some .directory ∨ b.directory l

variable {b : Bounds} {d d' d'' : Disk} {p source destination : Path} {l : Location}

namespace ChangesWithin

theorem refl (b : Bounds) (d : Disk) : d.ChangesWithin b d := ⟨.refl d, .inl, .inl⟩

theorem of_eq (h : d' = d) : d.ChangesWithin b d' := h ▸ .refl b d

theorem trans (h : d.ChangesWithin b d') (h' : d'.ChangesWithin b d'') :
    d.ChangesWithin b d'' := by
  refine ⟨h.later.trans h'.later, ?_, ?_⟩
  · intro l bytes hl
    rcases h'.files hl with hold | hplace
    · exact h.files hold
    · exact .inr hplace
  · intro l hl
    rcases h'.directories hl with hold | hplace
    · exact h.directories hold
    · exact .inr hplace

/-- A file in a place that is open to it, and nothing else. -/
theorem of_file {bytes : ByteArray} (hworkDir : d'.workDir = d.workDir)
    (hfile : d'.get? l = some (.file bytes)) (hl : d.get? l ≠ some .directory)
    (hothers : ∀ k, k ≠ l → d'.get? k = d.get? k) (hplace : b.file l) :
    d.ChangesWithin b d' := by
  refine ⟨.of_file hworkDir hfile hl hothers, ?_, ?_⟩
  · intro k content hk
    by_cases hkl : k = l
    · exact .inr (hkl ▸ hplace)
    · exact .inl (by rwa [← hothers k hkl])
  · intro k hk
    by_cases hkl : k = l
    · rw [hkl, hfile] at hk
      cases hk
    · exact .inl (by rwa [← hothers k hkl])

end ChangesWithin

/-- Directories are made on the way to a canonical path, and nowhere else. -/
theorem changesWithin_createDirectories (hp : p.IsCanonical)
    (hplace : ∀ k, k <+: d.placeOf p → b.directory k) :
    d.ChangesWithin b (d.createDirectories p).2 := by
  have hextends := extends_createDirectories d p
  refine ⟨.of_extends hextends, fun hl => .inl (hextends.filed hl), ?_⟩
  intro k hk
  by_cases hon : k <+: d.placeOf p
  · exact .inr (hplace k hon)
  · exact .inl (by rwa [← get?_createDirectories hp hon])

theorem changesWithin_writeFile (bytes : ByteArray) (hplace : b.file (d.placeOf p)) :
    d.ChangesWithin b (d.writeFile p bytes).2 := by
  unfold writeFile
  cases hwritable : d.writable p with
  | error e => exact .refl b d
  | ok l =>
    have hl := get?_ne_of_writable hwritable
    rw [place_of_writable hwritable] at hplace
    exact .of_file rfl (get?_put_self _ (ne_nil_of_get? hl)) hl
      (fun k hk => get?_put_of_ne _ hk) hplace

/-- A copy is refused, or it writes to the place of its destination. -/
theorem changesWithin_copyFile
    (hplace : (∃ bytes, d.readFile source = .ok bytes) → b.file (d.placeOf destination)) :
    d.ChangesWithin b (d.copyFile source destination).2 := by
  cases hcopy : d.copyFile source destination with
  | mk outcome d' =>
    cases outcome with
    | error e => exact .of_eq (copyFile_of_error hcopy)
    | ok n =>
      obtain ⟨l, bytes, hl, hworkDir, hfile, hothers⟩ := exists_of_copyFile hcopy
      have hread := (exists_copyFile_eq_ok.1 ⟨n, congrArg Prod.fst hcopy⟩).1
      have hopen := hplace hread
      rw [place_of_writable hl] at hopen
      exact .of_file hworkDir hfile (get?_ne_of_writable hl) hothers hopen

/-- The bounds of a change that may be anywhere. -/
def Bounds.everywhere : Bounds := ⟨fun _ => True, fun _ => True⟩

theorem later_writeFile (d : Disk) (p : Path) (bytes : ByteArray) :
    d.Later (d.writeFile p bytes).2 :=
  (changesWithin_writeFile (b := .everywhere) bytes trivial).later

theorem later_copyFile (d : Disk) (source destination : Path) :
    d.Later (d.copyFile source destination).2 :=
  (changesWithin_copyFile (b := .everywhere) fun _ => trivial).later

end StylesheetAssets.Disk
