import StylesheetAssets.CommandLine.Run
import StylesheetAssets.CommandLine.Usage
import StylesheetAssets.Disk.Snapshot

/-!
The program. Runs are worked out on a snapshot of the disk, which is extended until nothing more is
asked of it; only then is the disk changed.
-/
namespace StylesheetAssets.CommandLine

/-- The place of the working directory, if it is there. -/
def currentPlace : IO (Option Location) := do
  try
    let here ← IO.currentDir
    return some (here.toString.splitOn "/" |>.filter (· ≠ ""))
  catch _ => return none

def textOf (l : Location) : String := "/" ++ "/".intercalate l

def lookUp (l : Location) : IO (Option Entry) := do
  let place := (← IO.FS.realPath ⟨"/"⟩) / textOf l
  if ← place.isDir then return some .directory
  else if ← place.pathExists then return some (.file (← IO.FS.readBinFile place))
  else return none

/-- Puts what lies at a place into a snapshot. -/
def extend (d : Disk) (l : Location) : IO Disk := do
  match ← lookUp l with
  | some e => return d.put l e
  | none => return d

/-- Runs on larger and larger snapshots until the snapshot holds all that the run asks for. -/
partial def settle (i : Invocation) (d : Disk) (known : List Location) : IO (Disk × Run) := do
  let run := i.execute d
  let places := (d.placesOfJournal run.session.journal).filter (!known.contains ·)
  if places.isEmpty then return (d, run)
  else settle i (← places.foldlM extend d) (places ++ known)

/-- Writes an entry of the outcome to the real disk. -/
def apply (l : Location) : Entry → IO Unit
  | .directory => IO.FS.createDirAll ⟨textOf l⟩
  | .file bytes => IO.FS.writeBinFile ⟨textOf l⟩ bytes

def carryOut (i : Invocation) : IO UInt32 := do
  let (before, run) ← settle i { workDir := ← currentPlace } []
  for (l, e) in before.changes run.session.disk do
    apply l e
  let screen := run.screen i.verbose
  IO.print screen.output
  IO.eprint screen.errors
  return run.exitCode

def refuse (e : UsageError) : IO UInt32 := do
  if e.exitCode = 0 then IO.print e.message else IO.eprint e.message
  return e.exitCode

end StylesheetAssets.CommandLine

open StylesheetAssets.CommandLine in
def main (args : List String) : IO UInt32 :=
  match read args with
  | .ok i => carryOut i
  | .error e => refuse e
