import StylesheetAssets.Build.All
import StylesheetAssets.CommandLine.Reader
import StylesheetAssets.Terminal.Screen

/-!
Runs of the program: from arguments and a disk to what is written.
-/
namespace StylesheetAssets.CommandLine

def runBuild (config : Path) (inputs : List Path) (outDir : Path) (overrides : Overrides) :
    ExceptT BuildError (StateM Session) Unit := do
  match (← getThe Session).disk.currentDirectory with
  | .error cause => throw (.workDirectory cause)
  | .ok workDir =>
    let config ← loadConfig config workDir outDir overrides
    let _ ← buildAll config inputs (outDir.absolutize workDir)

def runMark (input : Path) : ExceptT BuildError (StateM Session) Unit := do
  match ← Session.readText input with
  | .error cause => throw (.unreadable input cause)
  | .ok code =>
    let marked ← (Session.noting (Import.markFile code.toList input) : StateM Session _)
    Session.record (.printed (String.ofList marked))

def Invocation.run (i : Invocation) : ExceptT BuildError (StateM Session) Unit :=
  match i.command with
  | .build inputs outDir overrides => runBuild i.config inputs outDir overrides
  | .mark input => runMark input

/-- What a run leaves behind. -/
structure Run where
  result : Except BuildError Unit
  session : Session

/-- Carries a command line out. -/
def Invocation.execute (i : Invocation) (disk : Disk) : Run :=
  let (result, session) := i.run.run { disk }
  ⟨result, session⟩

namespace Run

/-- What the run shows, its failure last. -/
def screen (r : Run) (verbose : Bool) : Terminal.Screen :=
  let s := ({ verbose } : Terminal.Screen).applyAll r.session.journal
  match r.result with
  | .ok () => s
  | .error e => { s with errors := s.errors ++ e.report }

def exitCode (r : Run) : UInt32 :=
  match r.result with
  | .ok () => 0
  | .error _ => 1

end Run

end StylesheetAssets.CommandLine
