import StylesheetAssets.Proofs.Disk.Apart

/-!
The same acts on the disk that they have left.

What the second run has not yet written again is as the first one left it in the end, and every
directory is there already.
-/
namespace StylesheetAssets

/-- A disk of the second run beside that of the first run after the same acts. The first run ends in
`final`. -/
structure Redone (final d d' : Disk) : Prop where
  workDir : d'.workDir = d.workDir
  either : ∀ l, d'.get? l = final.get? l ∨
    d'.get? l = d.get? l ∧ ∃ bytes, final.get? l = some (.file bytes)

namespace Redone

variable {final d d' e e' : Disk} {l : Location} {bytes : ByteArray}

/-- No directory is missing. -/
theorem directories (h : Redone final d d') (hl : final.get? l = some .directory) :
    d'.get? l = some .directory := by
  rcases h.either l with heq | ⟨-, bytes, hfile⟩
  · rwa [heq]
  · rw [hl] at hfile
    cases hfile

/-- Where both runs find the same, they find what stays. -/
theorem get?_eq (h : Redone final d d') (hl : final.get? l = d.get? l) : d'.get? l = d.get? l := by
  rcases h.either l with heq | ⟨heq, -⟩
  · rw [heq, hl]
  · exact heq

/-- Where the first run can write, there is nothing in the way of the second. -/
theorem writable {p : Path} (h : Redone final d d') (hlater : d.Later final)
    (hl : d.writable p = .ok l) (hfile : final.get? l = some (.file bytes)) :
    d'.writable p = .ok l := by
  refine Disk.writable_later (fun k hk => h.directories (hlater.directories k hk)) h.workDir hl ?_
  rcases h.either l with heq | ⟨heq, -⟩
  · simp [heq, hfile]
  · rw [heq]
    exact Disk.get?_ne_of_writable hl

/-- Both runs write the same file. -/
theorem of_file (h : Redone final d d') (hworkDir : e.workDir = d.workDir)
    (hworkDir' : e'.workDir = d'.workDir) (hfile : e.get? l = some (.file bytes))
    (hfile' : e'.get? l = some (.file bytes)) (hothers : ∀ k, k ≠ l → e.get? k = d.get? k)
    (hothers' : ∀ k, k ≠ l → e'.get? k = d'.get? k) (hlater : e.Later final) :
    Redone final e e' := by
  refine ⟨by rw [hworkDir', h.workDir, hworkDir], fun k => ?_⟩
  by_cases hk : k = l
  · subst hk
    exact .inr ⟨hfile'.trans hfile.symm, hlater.files hfile⟩
  · rw [hothers k hk, hothers' k hk]
    exact h.either k

/-- What the first run makes on the way is there for the second. -/
theorem of_later (h : Redone final d d') (hextends : d.Extends e) (hlater : e.Later final) :
    Redone final e d' := by
  refine ⟨h.workDir.trans hextends.workDir.symm, fun l => ?_⟩
  rcases h.either l with heq | ⟨heq, bytes, hfile⟩
  · exact .inl heq
  · refine .inr ⟨?_, bytes, hfile⟩
    rcases hd : d.get? l with - | entry
    · rcases he : e.get? l with - | (old | -)
      · rw [heq, hd]
      · rw [hextends.filed he] at hd
        cases hd
      · rw [hlater.directories l he] at hfile
        cases hfile
    · rw [heq, hd, hextends.kept hd]

/-- The second run makes the same act. -/
theorem step {a : Act} {acts : List Act} (h : Redone final d d') (hact : a.Takes d e)
    (hrest : e.Passes acts final)
    (hapart : ReadsApart d final ((a :: acts).map Act.event)) (hintact : ¬a.Refused) :
    ∃ e', a.Takes d' e' ∧ Redone final e e' := by
  have hlater := hact.later.trans hrest.later
  have hdirectories : ∀ l, d.get? l = some .directory → d'.get? l = some .directory :=
    fun l hl => h.directories (hlater.directories l hl)
  have hlooked {p : Path} (hp : p ∈ a.event.looked?) {l : Location} {entry : Entry}
      (hl : d.resolve p = .ok (.found l entry)) : d'.resolve p = .ok (.found l entry) := by
    have hplace : l = d.placeOf p := Disk.place_of_resolve hl
    have hkept := (Disk.Passes.cons hact hrest).get?_looked hapart List.mem_cons_self hp
    rw [← hplace] at hkept
    exact Disk.resolve_found h.workDir hdirectories (fun _ => h.get?_eq hkept) hl
  cases a with
  | examined p n =>
    obtain ⟨hsize, rfl⟩ := hact
    obtain ⟨l, entry, hl, hn⟩ := Disk.size_eq_ok.1 hsize
    exact ⟨d', ⟨Disk.size_eq_ok.2 ⟨l, entry, hlooked rfl hl, hn⟩, rfl⟩, h⟩
  | read p bytes =>
    obtain ⟨hread, rfl⟩ := hact
    obtain ⟨l, hl⟩ := Disk.readFile_eq_ok.1 hread
    exact ⟨d', ⟨Disk.readFile_eq_ok.2 ⟨l, hlooked rfl hl⟩, rfl⟩, h⟩
  | made p =>
    have hmade : d.createDirectories p = (.ok (), e) := hact
    have hextends := Disk.extends_createDirectories d p
    rw [hmade] at hextends
    have hfinal := (Disk.reaches_of_createDirectories hmade).later hrest.later.workDir
      hrest.later.directories
    have hreaches : d'.Reaches p :=
      hfinal.later (h.workDir.trans hlater.workDir.symm) fun l => h.directories
    exact ⟨d', hreaches.createDirectories, h.of_later hextends hrest.later⟩
  | wrote p bytes =>
    obtain ⟨l, hl, rfl⟩ := Disk.writeFile_eq_ok.1 hact
    have hroot := Disk.ne_nil_of_get? (Disk.get?_ne_of_writable hl)
    obtain ⟨bytes', hfile⟩ := hrest.later.files (Disk.get?_put_self (.file bytes) hroot)
    have hl' := h.writable hlater hl hfile
    refine ⟨d'.put l (.file bytes), Disk.writeFile_eq_ok.2 ⟨l, hl', rfl⟩, ?_⟩
    exact h.of_file rfl rfl (Disk.get?_put_self _ hroot) (Disk.get?_put_self _ hroot)
      (fun k hk => Disk.get?_put_of_ne _ hk) (fun k hk => Disk.get?_put_of_ne _ hk) hrest.later
  | copied source destination outcome =>
    cases outcome with
    | error cause => exact absurd ⟨source, destination, cause, rfl⟩ hintact
    | ok n =>
      have hcopy : d.copyFile source destination = (.ok n, e) := hact
      have hmem : Event.copied source destination ∈
          (Act.copied source destination (.ok n) :: acts).map Act.event := List.mem_cons_self
      obtain ⟨k, l, bytes, hk, hl, hne, rfl, hworkDir, hfile, hothers⟩ :=
        Disk.exists_of_copyFile_apart hcopy
          (hapart.written _ hmem _ hmem source rfl destination rfl)
      obtain ⟨bytes', hfinal⟩ := hrest.later.files hfile
      have hl' := h.writable hlater hl hfinal
      obtain ⟨e', hcopy', hworkDir', hfile', hothers'⟩ :=
        Disk.copyFile_of_apart (hlooked rfl hk) hl' hne
      exact ⟨e', hcopy', h.of_file hworkDir hworkDir' hfile hfile' hothers hothers' hrest.later⟩

/-- The second run makes the same act, if one is made. -/
theorem passes {act? : Option Act} {acts : List Act} (h : Redone final d d')
    (hact : d.Passes act?.toList e) (hrest : e.Passes acts final)
    (hapart : ReadsApart d final ((act?.toList ++ acts).map Act.event))
    (hintact : ∀ a ∈ act?, ¬a.Refused) :
    ∃ e', d'.Passes act?.toList e' ∧ Redone final e e' := by
  cases act? with
  | none => exact ⟨d', .nil _, Disk.passes_nil.1 hact ▸ h⟩
  | some a =>
    obtain ⟨e', htakes, hredone⟩ := h.step (Disk.passes_singleton.1 hact) hrest hapart
      (hintact a rfl)
    exact ⟨e', Disk.passes_singleton.2 htakes, hredone⟩

end Redone

end StylesheetAssets
