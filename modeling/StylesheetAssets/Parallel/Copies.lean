import StylesheetAssets.Copy.Queue
import StylesheetAssets.Parallel.Program

/-!
Copies in the background. A program that asks for a copy goes on before the copy is made. It waits
for a copy where it needs the destination for another one, and for all of them in the end.
-/
namespace StylesheetAssets.Parallel

/-- What asks for copies. It may fail, and keeps those under way as they then are. -/
abbrev Collecting (α : Type) := ExceptT RewriteError (StateT (List Pending) Program) α

/-- Waits for a copy. Its outcome is an error of the rewriting that asked for it. -/
def Pending.join (copy : Pending) : Program (Except RewriteError Nat) := do
  let outcome ← Program.request (.join copy)
  return outcome.mapError (.copy copy.source copy.destination)

namespace Collecting

/-- The copy to a destination, with its place among those under way. -/
def find? (copies : List Pending) (destination : Path) : Option (Pending × Nat) :=
  copies.zipIdx.find? (·.1.destination.same destination)

def claim (source destination : Path) : Collecting Unit := do
  let () ← Program.request (.claim source destination)

/-- Waits for the copy at a place and takes it out. Its failure is the failure of this step. -/
def settle (copy : Pending) (place : Nat) : Collecting Unit := do
  modify fun copies => swapRemove copies place
  match ← copy.join with
  | .ok _ => pure ()
  | .error e => throw e

def start (source destination : Path) : Collecting Unit := do
  let ticket ← Program.request (.start source destination)
  modify fun copies => copies ++ [⟨source, destination, ticket⟩]

/-- Asks for a copy. One that is under way already is not asked for again. -/
def request (source destination : Path) : Collecting Unit := do
  match find? (← get) destination with
  | some (copy, place) =>
    if !copy.source.same source then
      claim source destination
      settle copy place
      start source destination
  | none =>
    claim source destination
    start source destination

/-- Waits for the copies one after the other, also behind one that failed. -/
def waitFrom (written : Nat) (failure : Option RewriteError) :
    List Pending → Program (Except RewriteError Nat)
  | [] => return match failure with
    | some e => .error e
    | none => .ok written
  | copy :: rest => do
    match ← copy.join with
    | .ok _ => waitFrom (written + 1) failure rest
    | .error e => waitFrom written (failure.or (some e)) rest

/-- Waits for all copies: the first failure, or how many files were written. -/
def wait (copies : List Pending) : Program (Except RewriteError Nat) := waitFrom 0 none copies

end Collecting

end StylesheetAssets.Parallel
