/-!
Counting the states of an automaton while it is put together.

States are numbered. Of an automaton only the number of its states and the room they take are kept:
32 bytes for a state, 8 for each range of bytes in a state that reads one of several, and 4 for each
way on from a state that forks. An automaton that takes more than ten mebibytes is given up.
-/
namespace StylesheetAssets.Pattern

/-- What has been put together so far. -/
structure Assembly where
  states : Nat
  /-- Bytes that states take besides those that each takes. -/
  extra : Nat
deriving DecidableEq, Inhabited, Repr

namespace Assembly

def bytes (a : Assembly) : Nat := 32 * a.states + a.extra

def limit : Nat := 10 * 1024 * 1024

/-- The assembly, if there is room for it. -/
def checked (a : Assembly) : Option Assembly := if a.bytes ≤ limit then some a else none

end Assembly

/-- Putting states together until the room is used up. -/
abbrev Assemble := StateT Assembly Option

/-- What a part of an automaton ends in. A state that forks gets one more way for what follows. -/
inductive PartEnd where
  | plain
  | fork
deriving DecidableEq, Inhabited, Repr

namespace Assemble

/-- Adds a state and answers its number. -/
def stateWith (extra : Nat) : Assemble Nat := fun a => do
  let b ← Assembly.checked ⟨a.states + 1, a.extra + extra⟩
  return (a.states, b)

/-- Adds a state that takes no more than any other. -/
def state : Assemble Nat := stateWith 0

/-- Adds a state that reads one of several ranges of bytes. -/
def reader (ranges : Nat) : Assemble Nat := stateWith (8 * ranges)

/-- Adds ways to states that fork. -/
def ways (n : Nat) : Assemble Unit := fun a => do
  let b ← Assembly.checked ⟨a.states, a.extra + 4 * n⟩
  return ((), b)

/-- Leads on from the end of a part. -/
def lead : PartEnd → Assemble Unit
  | .plain => pure ()
  | .fork => ways 1

def single : Assemble PartEnd := do
  let _ ← state
  return .plain

/-- Further copies of a part behind one that ended so. -/
def copiesBehind (copy : Assemble PartEnd) : Nat → PartEnd → Assemble PartEnd
  | 0, before => return before
  | n + 1, before => do
    let next ← copy
    lead before
    copiesBehind copy n next

/-- Copies of a part one behind the other. -/
def copies (copy : Assemble PartEnd) : Nat → Assemble PartEnd
  | 0 => single
  | n + 1 => do copiesBehind copy n (← copy)

def optional (copy : Assemble PartEnd) : Assemble PartEnd := do
  let _ ← state
  let last ← copy
  let _ ← state
  ways 2
  lead last
  return .plain

/-- Copies behind a part, each of which the end can be reached without. -/
def optionalsBehind (copy : Assemble PartEnd) : Nat → PartEnd → Assemble PartEnd
  | 0, before => do
    lead before
    return .plain
  | n + 1, before => do
    let _ ← state
    let next ← copy
    lead before
    ways 2
    optionalsBehind copy n next

/-- From `least` to `most` copies. -/
def bounded (copy : Assemble PartEnd) (least most : Nat) : Assemble PartEnd := do
  let before ← copies copy least
  if least = most then return before
  let _ ← state
  optionalsBehind copy (most - least) before

/-- A copy that a fork leads back to. -/
def loop (copy : Assemble PartEnd) : Assemble PartEnd := do
  let last ← copy
  let _ ← state
  lead last
  ways 1
  return .fork

/-- Any number of copies from `least`. A copy that may read nothing needs a way around the loop. -/
def unbounded (copy : Assemble PartEnd) (reads : Bool) (least : Nat) : Assemble PartEnd := do
  match least with
  | 0 =>
    if reads then
      let _ ← state
      let last ← copy
      ways 1
      lead last
      return .fork
    let last ← loop copy
    let _ ← state
    let _ ← state
    ways 2
    lead last
    return .plain
  | 1 => loop copy
  | n + 1 =>
    let before ← copies copy n
    let last ← loop copy
    lead before
    return last

end Assemble

end StylesheetAssets.Pattern
