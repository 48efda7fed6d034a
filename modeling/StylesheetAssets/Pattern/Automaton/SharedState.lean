import Std.Data.HashMap
import StylesheetAssets.Pattern.Automaton.Assembly
import StylesheetAssets.Pattern.ByteSequence

/-!
States that read one character of a set, shared where they lead on in the same way.

Forwards, the encodings are read in order and states are shared from the end of the encodings;
backwards, from their start. The states that can be shared are kept in slots, one in each: a state
that is new drives out the one that was kept in its slot.
-/
namespace StylesheetAssets.Pattern

/-- Bytes and the number of the state that they lead to. -/
structure Way where
  bytes : ByteRange
  next : Nat
deriving DecidableEq, Inhabited, Repr

/-- Mixes numbers into one, the first first. -/
def mix (ns : List UInt64) : UInt64 :=
  ns.foldl (fun h n => (h ^^^ n) * 1099511628211) 14695981039346656037

namespace Forwards

open Assemble

/-- States in their slots, each with its ways on. -/
abbrev Slots := Std.HashMap UInt64 (List Way × Nat)

def slot (ways : List Way) : UInt64 :=
  mix (ways.flatMap fun w => [w.bytes.first.toUInt64, w.bytes.last.toUInt64, w.next.toUInt64]) %
    10000

/-- The number of the state with some ways on, which is added unless it is kept. -/
def share (ways : List Way) (slots : Slots) : Assemble (Nat × Slots) := do
  let place := slot ways
  match slots[place]? with
  | some (kept, n) => if kept = ways then return (n, slots)
  | none => pure ()
  let n ← reader ways.length
  return (n, slots.insert place (ways, n))

/-- A state to which ways may still come, and the bytes of the way whose target is not known yet. -/
structure Unfinished where
  ways : List Way
  open? : Option ByteRange
deriving DecidableEq, Inhabited, Repr

/-- The ways of an unfinished state, where the open one leads to `next`. -/
def Unfinished.leadingTo (u : Unfinished) (next : Nat) : List Way :=
  match u.open? with
  | some bytes => u.ways ++ [⟨bytes, next⟩]
  | none => u.ways

/-- Finishes states that lead on to each other, the last of them to `target`. -/
def finish (target : Nat) (slots : Slots) : List Unfinished → Assemble (Nat × Slots)
  | [] => return (target, slots)
  | u :: rest => do
    let (next, slots) ← finish target slots rest
    share (u.leadingTo next) slots

/-- How many open ways read what an encoding starts with. -/
def commonLength : List ByteRange → List Unfinished → Nat
  | bytes :: rest, u :: us => if u.open? = some bytes then commonLength rest us + 1 else 0
  | _, _ => 0

/-- Adds an encoding to states whose open ways read the encoding before it. -/
def add (target : Nat) (us : List Unfinished) (slots : Slots) (sequence : List ByteRange) :
    Assemble (List Unfinished × Slots) := do
  let n := commonLength sequence us
  let (next, slots) ← finish target slots (us.drop (n + 1))
  let ways := ((us[n]?).map (·.leadingTo next)).getD []
  let added : List Unfinished :=
    match sequence.drop n with
    | [] => []
    | bytes :: rest => ⟨ways, some bytes⟩ :: rest.map fun bytes => ⟨[], some bytes⟩
  return (us.take n ++ added, slots)

/-- The states that read one of some encodings. -/
def set (sequences : List (List ByteRange)) : Assemble Unit := do
  let target ← state
  let (us, slots) ← sequences.foldlM (fun (us, slots) s => add target us slots s)
    ([⟨[], none⟩], {})
  let _ ← finish target slots us

end Forwards

namespace Backwards

open Assemble

/-- States in their slots, each with the way on from it. -/
abbrev Slots := Std.HashMap UInt64 (Way × Nat)

def slot (way : Way) : UInt64 :=
  mix [way.next.toUInt64, way.bytes.first.toUInt64, way.bytes.last.toUInt64] % 1000

/-- The number of the state with a way on, which is added unless it is kept. -/
def share (way : Way) (slots : Slots) : Assemble (Nat × Slots) := do
  let place := slot way
  match slots[place]? with
  | some (kept, n) => if kept = way then return (n, slots)
  | none => pure ()
  let n ← state
  return (n, slots.insert place (way, n))

/-- The number of the state that reads an encoding backwards and leads to `target`. -/
def add (target : Nat) (slots : Slots) : List ByteRange → Assemble (Nat × Slots)
  | [] => return (target, slots)
  | bytes :: rest => do
    let (n, slots) ← share ⟨bytes, target⟩ slots
    add n slots rest

/-- The states that read one of some encodings. -/
def set (sequences : List (List ByteRange)) : Assemble Unit := do
  let _ ← state
  let target ← state
  let _ ← sequences.foldlM (fun slots s => do
    let (_, slots) ← add target slots s
    ways 1
    return slots) ({} : Slots)

end Backwards

end StylesheetAssets.Pattern
