import StylesheetAssets.Proofs.Disk.Act

/-!
What acts leave of a disk, and runs that write nothing they look at.
-/
namespace StylesheetAssets

namespace Event

/-- The path that is read, or whose size is asked for. -/
def looked? : Event → Option Path
  | examined p => some p
  | read p => some p
  | copied source _ => some source
  | _ => none

/-- The path of the file that is written. -/
def written? : Event → Option Path
  | wrote p => some p
  | copied _ destination => some destination
  | _ => none

def destination? : Event → Option Path
  | copied _ destination => some destination
  | _ => none

def output? : Event → Option Path
  | wrote p => some p
  | _ => none

end Event

/-- No place that is looked at is written to, and no directory that is looked at was made. -/
structure ReadsApart (before after : Disk) (events : List Event) : Prop where
  written : ∀ e ∈ events, ∀ e' ∈ events, ∀ p ∈ e.looked?, ∀ q ∈ e'.written?,
    before.placeOf p ≠ before.placeOf q
  made : ∀ e ∈ events, ∀ p ∈ e.looked?, after.get? (before.placeOf p) = some .directory →
    before.get? (before.placeOf p) = some .directory

instance (before after : Disk) (events : List Event) : Decidable (ReadsApart before after events) :=
  decidable_of_iff
    ((∀ e ∈ events, ∀ e' ∈ events, ∀ p ∈ e.looked?, ∀ q ∈ e'.written?,
        before.placeOf p ≠ before.placeOf q) ∧
      ∀ e ∈ events, ∀ p ∈ e.looked?, after.get? (before.placeOf p) = some .directory →
        before.get? (before.placeOf p) = some .directory)
    ⟨fun h => ⟨h.1, h.2⟩, fun h => ⟨h.written, h.made⟩⟩

/-- No copy goes where something else is written. -/
def CopiesApart (before : Disk) (events : List Event) : Prop :=
  ∀ e ∈ events, ∀ e' ∈ events, ∀ p ∈ e.destination?, ∀ q ∈ e'.output?,
    before.placeOf p ≠ before.placeOf q

instance (before : Disk) (events : List Event) : Decidable (CopiesApart before events) :=
  inferInstanceAs (Decidable (∀ e ∈ events, ∀ e' ∈ events, ∀ p ∈ e.destination?,
    ∀ q ∈ e'.output?, before.placeOf p ≠ before.placeOf q))

namespace ReadsApart

variable {before before' after : Disk} {events events' : List Event}

theorem mono (h : ReadsApart before after events) (hsub : events' ⊆ events) :
    ReadsApart before after events' :=
  ⟨fun e he e' he' => h.written e (hsub he) e' (hsub he'), fun e he => h.made e (hsub he)⟩

theorem later (h : ReadsApart before after events) (hlater : before.Later before') :
    ReadsApart before' after events := by
  refine ⟨fun e he e' he' p hp q hq => ?_, fun e he p hp hafter => ?_⟩
  · rw [Disk.placeOf_congr hlater.workDir, Disk.placeOf_congr hlater.workDir]
    exact h.written e he e' he' p hp q hq
  · rw [Disk.placeOf_congr hlater.workDir] at hafter ⊢
    exact hlater.directories _ (h.made e he p hp hafter)

end ReadsApart

namespace Act.Takes

variable {a : Act} {d d' : Disk} {l : Location} {bytes : ByteArray}

theorem later (h : a.Takes d d') : d.Later d' := by
  cases a with
  | examined p n => exact h.2 ▸ .refl d
  | read p bytes => exact h.2 ▸ .refl d
  | made p =>
    have hextends := Disk.extends_createDirectories d p
    have hmade : d.createDirectories p = (.ok (), d') := h
    rw [hmade] at hextends
    exact .of_extends hextends
  | wrote p bytes =>
    obtain ⟨l, hl, rfl⟩ := Disk.writeFile_eq_ok.1 h
    have hplain := Disk.get?_ne_of_writable hl
    exact .of_file rfl (Disk.get?_put_self _ (Disk.ne_nil_of_get? hplain)) hplain
      fun k hk => Disk.get?_put_of_ne _ hk
  | copied source destination outcome =>
    cases outcome with
    | error e => exact Disk.copyFile_of_error h ▸ .refl d
    | ok n =>
      obtain ⟨l, bytes, hl, hworkDir, hfile, hothers⟩ := Disk.exists_of_copyFile h
      exact .of_file hworkDir hfile (Disk.get?_ne_of_writable hl) hothers

/-- Files are changed only where the act writes. -/
theorem filed (h : a.Takes d d') (hl : ∀ q ∈ a.event.written?, d.placeOf q ≠ l) :
    d'.get? l = some (.file bytes) ↔ d.get? l = some (.file bytes) := by
  cases a with
  | examined p n => rw [h.2]
  | read p bytes => rw [h.2]
  | made p =>
    have hextends := Disk.extends_createDirectories d p
    have hmade : d.createDirectories p = (.ok (), d') := h
    rw [hmade] at hextends
    exact ⟨hextends.filed, hextends.kept⟩
  | wrote p content =>
    obtain ⟨k, hk, rfl⟩ := Disk.writeFile_eq_ok.1 h
    have hne : d.placeOf p ≠ l := hl p rfl
    rw [Disk.place_of_writable hk] at hne
    rw [Disk.get?_put_of_ne _ hne.symm]
  | copied source destination outcome =>
    have hne : d.placeOf destination ≠ l := hl destination rfl
    have hkept := Disk.get?_copyFile source hne.symm
    have hcopy : d.copyFile source destination = (outcome, d') := h
    rw [hcopy] at hkept
    rw [hkept]

/-- What a file holds is kept where the act does not write. -/
theorem holds {p : Path} (h : a.Takes d d') (hp : d.Holds p bytes)
    (hapart : ∀ q ∈ a.event.written?, d.placeOf q ≠ d.placeOf p) : d'.Holds p bytes := by
  rw [Disk.Holds, Disk.placeOf_congr h.later.workDir]
  exact (h.filed hapart).2 hp

end Act.Takes

namespace Disk.Passes

variable {d d' : Disk} {acts : List Act} {l : Location} {bytes : ByteArray}

theorem later (h : d.Passes acts d') : d.Later d' := by
  induction h with
  | nil d => exact .refl d
  | cons act _ ih => exact act.later.trans ih

theorem filed (h : d.Passes acts d')
    (hl : ∀ a ∈ acts, ∀ q ∈ a.event.written?, d.placeOf q ≠ l) :
    d'.get? l = some (.file bytes) ↔ d.get? l = some (.file bytes) := by
  induction h with
  | nil d => rfl
  | cons act rest ih =>
    obtain ⟨hact, hrest⟩ := List.forall_mem_cons.1 hl
    refine (ih fun a ha q hq => ?_).trans (act.filed hact)
    rw [placeOf_congr act.later.workDir]
    exact hrest a ha q hq

/-- A place stays as it is if no act writes there and no directory is new there. -/
theorem get?_eq (h : d.Passes acts d')
    (hl : ∀ a ∈ acts, ∀ q ∈ a.event.written?, d.placeOf q ≠ l)
    (hmade : d'.get? l = some .directory → d.get? l = some .directory) :
    d'.get? l = d.get? l := by
  rcases hd : d'.get? l with - | (bytes | -)
  · rcases hd' : d.get? l with - | (bytes | -)
    · rfl
    · rw [(h.filed hl).2 hd'] at hd
      cases hd
    · rw [h.later.directories l hd'] at hd
      cases hd
  · exact ((h.filed hl).1 hd).symm
  · exact (hmade hd).symm

/-- What is looked at stays as it is. -/
theorem get?_looked (h : d.Passes acts d') (hapart : ReadsApart d d' (acts.map Act.event)) {a : Act}
    (ha : a ∈ acts) {p : Path} (hp : p ∈ a.event.looked?) :
    d'.get? (d.placeOf p) = d.get? (d.placeOf p) := by
  have hmem {b : Act} (hb : b ∈ acts) : b.event ∈ acts.map Act.event := List.mem_map_of_mem hb
  refine h.get?_eq (fun b hb q hq => ?_) (hapart.made _ (hmem ha) p hp)
  exact (hapart.written _ (hmem ha) _ (hmem hb) p hp q hq).symm

end Disk.Passes

end StylesheetAssets
