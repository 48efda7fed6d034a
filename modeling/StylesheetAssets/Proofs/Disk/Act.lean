import StylesheetAssets.Journal
import StylesheetAssets.Proofs.Disk.Lasting

/-!
Acts: what is asked of a disk, with the answers. A run of acts takes one disk to another.
-/
namespace StylesheetAssets

/-- Something that was asked of a disk. Only a copy may have been refused. -/
inductive Act where
  /-- The size of a file was asked for. -/
  | examined (path : Path) (size : Nat)
  | read (path : Path) (bytes : ByteArray)
  | made (directory : Path)
  | wrote (path : Path) (bytes : ByteArray)
  | copied (source destination : Path) (outcome : Except DiskError Nat)

namespace Act

/-- The disk gives the answer, and is the other disk afterwards. -/
def Takes (d d' : Disk) : Act → Prop
  | examined p size => d.size p = .ok size ∧ d' = d
  | read p bytes => d.readFile p = .ok bytes ∧ d' = d
  | made p => d.createDirectories p = (.ok (), d')
  | wrote p bytes => d.writeFile p bytes = (.ok (), d')
  | copied source destination outcome => d.copyFile source destination = (outcome, d')

theorem Takes.unique {d d' d'' : Disk} {a : Act} (h : a.Takes d d') (h' : a.Takes d d'') :
    d' = d'' := by
  cases a with
  | examined => rw [h.2, h'.2]
  | read => rw [h.2, h'.2]
  | made => exact (Prod.mk.inj (h.symm.trans h')).2
  | wrote => exact (Prod.mk.inj (h.symm.trans h')).2
  | copied => exact (Prod.mk.inj (h.symm.trans h')).2

/-- What a journal says of the act. -/
def event : Act → Event
  | examined p _ => .examined p
  | read p _ => .read p
  | made p => .createdDirectories p
  | wrote p _ => .wrote p
  | copied source destination _ => .copied source destination

/-- The act is a copy that was refused. -/
def Refused (a : Act) : Prop := ∃ source destination e, a = copied source destination (.error e)

end Act

namespace Disk

/-- The acts take one disk to another, one after the other. -/
inductive Passes : Disk → List Act → Disk → Prop
  | nil (d : Disk) : Passes d [] d
  | cons {d d' d'' : Disk} {a : Act} {acts : List Act} (act : a.Takes d d')
      (rest : Passes d' acts d'') : Passes d (a :: acts) d''

variable {d d' d'' : Disk} {a : Act} {acts more : List Act}

theorem passes_nil : Passes d [] d' ↔ d' = d :=
  ⟨fun h => by cases h; rfl, fun h => h ▸ .nil d⟩

theorem passes_singleton : Passes d [a] d' ↔ a.Takes d d' := by
  constructor
  · rintro ⟨⟩
    next act rest =>
      cases rest
      exact act
  · exact fun h => .cons h (.nil d')

theorem passes_append :
    Passes d (acts ++ more) d'' ↔ ∃ d', Passes d acts d' ∧ Passes d' more d'' := by
  constructor
  · intro h
    induction acts generalizing d with
    | nil => exact ⟨d, .nil d, h⟩
    | cons a acts ih =>
      cases h with
      | cons act rest =>
        obtain ⟨d', hacts, hmore⟩ := ih rest
        exact ⟨d', .cons act hacts, hmore⟩
  · rintro ⟨d', hacts, hmore⟩
    induction hacts with
    | nil => exact hmore
    | cons act _ ih => exact .cons act (ih hmore)

/-- The disk behind some acts is the only one. -/
theorem Passes.unique (h : d.Passes acts d') (h' : d.Passes acts d'') : d' = d'' := by
  induction h with
  | nil => exact (passes_nil.1 h').symm
  | cons act rest ih =>
    cases h' with
    | cons act' rest' =>
      obtain rfl := act.unique act'
      exact ih rest'

end Disk

end StylesheetAssets
