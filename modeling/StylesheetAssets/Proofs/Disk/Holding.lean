import StylesheetAssets.Proofs.Disk.Place
import StylesheetAssets.Proofs.Path.Relative

/-!
What the places hold that paths lead to, and what a copy puts at the place of its destination.
-/
namespace StylesheetAssets.Disk

/-- A file with these bytes lies where the path leads. -/
def Holds (d : Disk) (p : Path) (bytes : ByteArray) : Prop :=
  d.get? (d.placeOf p) = some (.file bytes)

variable {d d' : Disk} {p q : Path} {bytes bytes' : ByteArray}

/-- A name below a directory leads one step further. -/
theorem placeOf_join (d : Disk) (directory : Path) {s : String} (h : Path.IsName s) :
    d.placeOf (directory.join ⟨s⟩) = d.placeOf directory ++ [s] := by
  have hrelative : Path.isAbsolute ⟨s⟩ = false := Path.isAbsolute_of_isName h
  have hbody : Path.body ⟨s⟩ = [.name s] := (Path.body_text_of_isStep (.inr ⟨s, rfl, h⟩)).2
  rw [placeOf, placeOf, startOf_join d directory hrelative, Path.body_join hrelative, hbody,
    List.foldl_append]
  exact List.reverse_cons

theorem holds_of_readFile (h : d.readFile p = .ok bytes) : d.Holds p bytes := by
  obtain ⟨l, hresolve⟩ := readFile_eq_ok.1 h
  have hplace : l = d.placeOf p := place_of_resolve hresolve
  rw [Holds, ← hplace]
  exact get?_of_resolve hresolve

theorem Holds.unique (h : d.Holds p bytes) (h' : d.Holds p bytes') : bytes = bytes' :=
  Entry.file.inj (Option.some.inj (h.symm.trans h'))

theorem Holds.congr (h : d.Holds p bytes) (hplace : d.placeOf p = d.placeOf q) :
    d.Holds q bytes := by
  rwa [Holds, ← hplace]

/-- A path through which a file was read still leads there, and now to what lies there. -/
theorem readFile_of_holds (hread : d.readFile p = .ok bytes') (hworkDir : d'.workDir = d.workDir)
    (hdirectories : ∀ l, d.get? l = some .directory → d'.get? l = some .directory)
    (h : d'.Holds p bytes) : d'.readFile p = .ok bytes := by
  obtain ⟨l, hresolve⟩ := readFile_eq_ok.1 hread
  have hplace : l = d.placeOf p := place_of_resolve hresolve
  rw [Holds, placeOf_congr hworkDir, ← hplace] at h
  exact readFile_of_writable hdirectories h hworkDir (by rw [writable, hresolve])

/-- A copy that is refused changes nothing. -/
theorem copyFile_of_error {source destination : Path} {e : DiskError}
    (h : d.copyFile source destination = (.error e, d')) : d' = d := by
  unfold copyFile at h
  split at h
  · cases h
    rfl
  · cases h
    rfl
  · cases h
    rfl
  · split at h
    · cases h
      rfl
    · dsimp only at h
      split at h <;> cases h

/-- A copy is made if its source can be read and its destination be written. -/
theorem exists_copyFile_eq_ok {source destination : Path} :
    (∃ n, (d.copyFile source destination).1 = .ok n) ↔
      (∃ bytes, d.readFile source = .ok bytes) ∧ ∃ l, d.writable destination = .ok l := by
  unfold copyFile readFile openFile
  cases d.resolve source with
  | error e => simp [Except.map]
  | ok target =>
    rcases target with ⟨l, (bytes | -)⟩ | -
    · cases d.writable destination with
      | error e => simp
      | ok l' =>
        dsimp only
        split <;> simp [Except.map]
    · simp [Except.map]
    · simp [Except.map]

/-- A copy to another place than that of its source holds what the source held. -/
theorem readFile_copyFile {source destination : Path} {n : Nat}
    (h : d.copyFile source destination = (.ok n, d')) (hsource : d.Holds source bytes)
    (hapart : d.placeOf source ≠ d.placeOf destination) :
    d'.readFile destination = .ok bytes := by
  have hdirectories : ∀ l, d.get? l = some .directory → d'.get? l = some .directory := by
    intro l hl
    have hkept := get?_copyFile_directory source destination hl
    rwa [h] at hkept
  have hworkDir : d'.workDir = d.workDir := by
    have hkept := workDir_copyFile d source destination
    rwa [h] at hkept
  unfold copyFile at h
  split at h
  · cases h
  · cases h
  · cases h
  · next l old hfound =>
    split at h
    · cases h
    · next target htarget =>
      have hl : l = d.placeOf source := place_of_resolve hfound
      have hread : (d.put target (.file .empty)).get? l = some (.file bytes) := by
        rw [get?_put_of_ne _ (by rwa [hl, ← place_of_writable htarget]), hl]
        exact hsource
      simp only [hread] at h
      cases h
      have hroot := ne_nil_of_get? (get?_ne_of_writable htarget)
      exact readFile_of_writable hdirectories (get?_put_self _ hroot) hworkDir htarget

/-- A copy leaves a file as it is, unless it writes something else in its place. -/
theorem Holds.copyFile {source destination : Path} {outcome : Except DiskError Nat}
    (h : d.Holds p bytes) (hcopy : d.copyFile source destination = (outcome, d'))
    (hsource : d.Holds source bytes') (hapart : d.placeOf source ≠ d.placeOf destination)
    (hsame : d.placeOf p = d.placeOf destination → bytes = bytes') : d'.Holds p bytes := by
  cases outcome with
  | error e => rwa [copyFile_of_error hcopy]
  | ok n =>
    have hworkDir : d'.workDir = d.workDir := by
      have hkept := workDir_copyFile d source destination
      rwa [hcopy] at hkept
    by_cases hplace : d.placeOf p = d.placeOf destination
    · obtain rfl := hsame hplace
      refine (holds_of_readFile (readFile_copyFile hcopy hsource hapart)).congr ?_
      rw [placeOf_congr hworkDir, placeOf_congr hworkDir, hplace]
    · have hkept := get?_copyFile source hplace
      rw [hcopy] at hkept
      rw [Holds, placeOf_congr hworkDir, hkept]
      exact h

end StylesheetAssets.Disk
