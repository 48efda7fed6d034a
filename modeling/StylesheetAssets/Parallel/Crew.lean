import StylesheetAssets.Copy.Queue
import StylesheetAssets.Parallel.Program
import StylesheetAssets.Session

/-!
Programs at work on one disk.

Each program has a worker, and each copy that it hands out is a transfer of that worker. A schedule
says who takes the next turn: a program makes its next request, or a transfer is made. A copy may so
be made at any time after it was handed out, as long as nobody waits for it. One request is one
step, and so is one copy.
-/
namespace StylesheetAssets.Parallel

/-- What all workers share. -/
structure Shared where
  session : Session
  registry : CopyRegistry := {}

/-- A copy that was handed out, with its outcome once it is made. -/
structure Transfer where
  source : Path
  destination : Path
  outcome? : Option (Except DiskError Nat) := none

/-- The bytes of a file, with what reading them says of its path. -/
def readContent (d : Disk) (p : Path) : Except DiskError (Content p) :=
  match h : d.readFile p with
  | .ok bytes => .ok ⟨bytes, Disk.short_of_readFile h⟩
  | .error e => .error e

namespace Request

/-- How a transfer went, if it is made. There is nothing to wait for where none was handed out. -/
def outcomeAt (transfers : List Transfer) (ticket : Nat) : Option (Except DiskError Nat) :=
  match transfers[ticket]? with
  | some transfer => transfer.outcome?
  | none => some (.error .notFound)

/-- The answer to a request, unless it has to wait. -/
def answer? (transfers : List Transfer) (shared : Shared) :
    (r : Request) → Option (r.Answer × List Transfer × Shared)
  | size p =>
    let (answer, session) := Session.size p shared.session
    some (answer, transfers, { shared with session })
  | read p =>
    let (_, session) := Session.readFile p shared.session
    some (readContent shared.session.disk p, transfers, { shared with session })
  | write p bytes =>
    let (answer, session) := Session.writeFile p bytes shared.session
    some (answer, transfers, { shared with session })
  | createDirectories p =>
    let (answer, session) := Session.createDirectories p shared.session
    some (answer, transfers, { shared with session })
  | claim source destination =>
    let (_, registry) := shared.registry.claim source destination
    some ((), transfers, { shared with registry })
  | start source destination =>
    some (transfers.length, transfers ++ [{ source, destination }], shared)
  | join copy =>
    (outcomeAt transfers copy.ticket).map fun outcome => (outcome, transfers, shared)

end Request

/-- A program on its way, with the copies that it has handed out so far. -/
structure Worker (α : Type) where
  program : Program α
  transfers : List Transfer := []

/-- What is done in one step. -/
inductive Deed where
  | asked (exchange : Exchange)
  | copied (source destination : Path) (outcome : Except DiskError Nat)

inductive Move where
  /-- The program makes its next request. -/
  | advance
  /-- A copy that was handed out is made. -/
  | transfer (ticket : Nat)
deriving DecidableEq, Repr

variable {α : Type}

/-- The next step of a worker, if the move is open to it. -/
def Worker.step? (w : Worker α) (shared : Shared) : Move → Option (Deed × Worker α × Shared)
  | .advance =>
    match w.program with
    | .done _ => none
    | .ask r next =>
      (r.answer? w.transfers shared).map fun (answer, transfers, shared) =>
        (.asked ⟨r, answer⟩, ⟨next answer, transfers⟩, shared)
  | .transfer ticket =>
    match w.transfers[ticket]? with
    | some ⟨source, destination, none⟩ =>
      let (outcome, session) := Session.copyFile source destination shared.session
      let transfers := w.transfers.set ticket ⟨source, destination, some outcome⟩
      some (.copied source destination outcome, { w with transfers }, { shared with session })
    | _ => none

structure Turn where
  worker : Nat
  move : Move
deriving DecidableEq, Repr

structure Crew (α : Type) where
  shared : Shared
  workers : List (Worker α)

namespace Crew

def step? (c : Crew α) (turn : Turn) : Option (Deed × Crew α) := do
  let w ← c.workers[turn.worker]?
  let (deed, w, shared) ← w.step? c.shared turn.move
  return (deed, ⟨shared, c.workers.set turn.worker w⟩)

/-- A turn that is not open to its worker passes without effect. -/
def step (c : Crew α) (turn : Turn) : Crew α :=
  match c.step? turn with
  | some (_, c) => c
  | none => c

def run (c : Crew α) (schedule : List Turn) : Crew α := schedule.foldl step c

/-- What the programs have come to, once all of them are at their ends. -/
def results? (c : Crew α) : Option (List α) := c.workers.mapM (·.program.result?)

end Crew

end StylesheetAssets.Parallel
