import StylesheetAssets.Disk.Following
import StylesheetAssets.Disk.Operations

/-!
Programs that run beside each other.

A program asks for one thing at a time and goes on with the answer. What else happens between two of
its requests is not in its hands.
-/
namespace StylesheetAssets.Parallel

/-- A copy that a program has handed out and not looked at yet. -/
structure Pending where
  source : Path
  destination : Path
  /-- How many copies the program had handed out before. -/
  ticket : Nat
deriving DecidableEq, Repr

/-- The bytes of a file, and that its path can be followed. -/
abbrev Content (p : Path) := { _bytes : ByteArray // p.text.utf8ByteSize ≤ Disk.maxPath }

inductive Request where
  | size (path : Path)
  | read (path : Path)
  | write (path : Path) (bytes : ByteArray)
  | createDirectories (path : Path)
  /-- Tells the registry which source a destination is used for. -/
  | claim (source destination : Path)
  /-- Hands a copy out and does not wait for it. The answer is its ticket. -/
  | start (source destination : Path)
  /-- Waits for a copy that was handed out. -/
  | join (copy : Pending)

@[reducible] def Request.Answer : Request → Type
  | size _ => Except DiskError Nat
  | read path => Except DiskError (Content path)
  | write .. => Except DiskError Unit
  | createDirectories _ => Except DiskError Unit
  | claim .. => Unit
  | start .. => Nat
  | join _ => Except DiskError Nat

structure Exchange where
  request : Request
  answer : request.Answer

inductive Program (α : Type) : Type where
  | done (a : α)
  | ask (r : Request) (next : r.Answer → Program α)

namespace Program

variable {α β : Type}

def request (r : Request) : Program r.Answer := .ask r .done

def bind (f : α → Program β) : Program α → Program β
  | done a => f a
  | ask r next => .ask r fun a => (next a).bind f

instance : Monad Program where
  pure := done
  bind x f := x.bind f

theorem bind_assoc {γ : Type} (x : Program α) (f : α → Program β) (g : β → Program γ) :
    x >>= f >>= g = x >>= fun a => f a >>= g := by
  induction x with
  | done a => rfl
  | ask r next ih => exact congrArg (ask r) (funext ih)

instance : LawfulMonad Program := LawfulMonad.mk' Program
  (fun x => by
    induction x with
    | done a => rfl
    | ask r next ih => exact congrArg (ask r) (funext ih))
  (fun a f => rfl)
  bind_assoc

/-- What the program has come to, if it is at its end. -/
def result? : Program α → Option α
  | done a => some a
  | ask .. => none

end Program

end StylesheetAssets.Parallel
