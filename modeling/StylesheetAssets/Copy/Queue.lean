import StylesheetAssets.Rewrite.Error
import StylesheetAssets.Session
import StylesheetAssets.Unicode.Property

/-!
Copies that were asked for and whose outcome nobody has looked at yet.

A queue holds at most one copy for each destination. Of two requests for one destination the later
one wins, and it is then that the earlier one is looked at. A registry knows which source each
destination was last claimed for, and how often a destination went from one source to another.
-/
namespace StylesheetAssets

structure CopyRegistry where
  /-- Destinations, each with its source. No destination stands twice. -/
  claims : List (Path × Path) := []
  conflicts : Nat := 0
deriving DecidableEq, Repr

namespace CopyRegistry

def source? (r : CopyRegistry) (destination : Path) : Option Path :=
  (r.claims.find? (·.1.same destination)).map (·.2)

/-- Claims a destination. Answers the source that had it before, if that was another one. -/
def claim (r : CopyRegistry) (source destination : Path) : Option Path × CopyRegistry :=
  let previous := (r.source? destination).filter (!·.same source)
  let claims := (destination, source) :: r.claims.filter (!·.1.same destination)
  (previous, ⟨claims, r.conflicts + if previous.isSome then 1 else 0⟩)

end CopyRegistry

/-! ### Text between quotes, with every character that would not show escaped by a backslash -/

namespace Text

/-- The number of a character in lower case hex, without leading zeros. -/
def hexCode (c : Char) : List Char := Nat.toDigits 16 c.toNat

def escapeChar (c : Char) : List Char :=
  if c = '\x00' then ['\\', '0']
  else if c = '\t' then ['\\', 't']
  else if c = '\r' then ['\\', 'r']
  else if c = '\n' then ['\\', 'n']
  else if c = '"' ∨ c = '\\' then ['\\', c]
  else if Unicode.hidden.contains c then
    ['\\', 'u', '\x7b'] ++ hexCode c ++ ['\x7d']
  else [c]

def quoted (text : String) : String :=
  "\"" ++ String.ofList (text.toList.flatMap escapeChar) ++ "\""

end Text

/-! ### Copies -/

structure Copy where
  source : Path
  destination : Path
  /-- The number of bytes written. -/
  outcome : Except DiskError Nat

/-- The outcome of a copy, as an error of the rewriting that asked for it. -/
def Copy.finish (c : Copy) : Except RewriteError Nat :=
  c.outcome.mapError (.copy c.source c.destination)

/-- Copies of one stylesheet. The registry is that of all stylesheets. -/
structure CopyQueue where
  registry : CopyRegistry := {}
  copies : List Copy := []

/-- What asks for copies. It may fail, and keeps the queue as it then is. -/
abbrev Copying (α : Type) := ExceptT RewriteError (StateT CopyQueue (StateM Session)) α

/-- A step that asks for no copies. -/
def Copying.ofSession {α : Type} (x : StateM Session (Except RewriteError α)) : Copying α :=
  ExceptT.mk (monadLift x)

/-- The list without its element at `i`, whose place the last element takes. -/
def swapRemove {α : Type} (l : List α) (i : Nat) : List α :=
  match l.getLast? with
  | some last => (l.set i last).dropLast
  | none => []

namespace CopyQueue

def destinations (q : CopyQueue) : List Path := q.copies.map Copy.destination

/-- Claims a destination, with a warning if that takes it from another source. -/
def claim (source destination : Path) : Copying Unit := do
  let (previous, registry) := (← get).registry.claim source destination
  modify fun q => { q with registry }
  match previous with
  | some previous =>
    Session.say "warning"
      s!"{destination.text} is overwritten by {source.text} (was {previous.text})"
  | none => pure ()

/-- Takes the copy at a place out of the queue. Its failure is the failure of this step. -/
def settle (copy : Copy) (place : Nat) : Copying Unit := do
  modify fun q => { q with copies := swapRemove q.copies place }
  match copy.finish with
  | .ok _ => pure ()
  | .error e => throw e

def start (source destination : Path) : Copying Unit := do
  let outcome ← Session.copyFile source destination
  modify fun q => { q with copies := q.copies ++ [⟨source, destination, outcome⟩] }

/-- The copy to a destination, with its place in the queue. -/
def find? (q : CopyQueue) (destination : Path) : Option (Copy × Nat) :=
  q.copies.zipIdx.find? (·.1.destination.same destination)

/-- Asks for a copy. What is in the queue already is not copied again. -/
def request (source destination : Path) : Copying Unit := do
  match (← get).find? destination with
  | some (copy, place) =>
    if !copy.source.same source then
      claim source destination
      settle copy place
      start source destination
  | none =>
    claim source destination
    start source destination

/-- Looks at all copies: the first failure, or how many files were written. -/
def finish (q : CopyQueue) : Except RewriteError Nat :=
  q.copies.foldlM (fun written copy => copy.finish.map fun _ => written + 1) 0

/-- The destinations between brackets. -/
def render (q : CopyQueue) : String :=
  "[" ++ ", ".intercalate (q.destinations.map fun p => Text.quoted p.text) ++ "]"

end CopyQueue

end StylesheetAssets
