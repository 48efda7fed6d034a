import StylesheetAssets.Build.All
import StylesheetAssets.Parallel.Crew
import StylesheetAssets.Parallel.Rewriting

/-!
Builds of several stylesheets beside each other.

Each stylesheet is built by a program of its own. They share the disk and the registry, and run
under any schedule; so do their copies.
-/
namespace StylesheetAssets.Parallel

open Import (FlattenError Statement staysInPlace targetOf cutLive mark)

abbrev Flattening (α : Type) := ExceptT FlattenError Program α

def readImport (target importer : Path) :
    Flattening { _text : String // target.text.utf8ByteSize ≤ Disk.maxPath } := do
  match ← Program.request (.read target) with
  | .error cause => throw (.unreadable target importer cause)
  | .ok content =>
    match Disk.decode content.1 with
    | .error cause => throw (.unreadable target importer cause)
    | .ok text => return ⟨text, content.2⟩

/-- The text of the statements of `file`, each with the text in front of it, where `inlined` gives
the text for an import. -/
def flattenStatements (inlined : Path → Flattening (List Char)) (file : Path) :
    List (List Char × Statement) → Flattening (List Char)
  | [] => return []
  | (before, i) :: rest => do
    if staysInPlace i.path then
      let after ← flattenStatements inlined file rest
      return before ++ i.text ++ after
    else
      let text ← inlined (targetOf file i.path)
      let after ← flattenStatements inlined file rest
      return before ++ text ++ after

/-- The text of an import, with its own imports in place. `chain` holds the paths being read. -/
def inlinedText (chain : List Path) (importer target : Path) : Flattening (List Char) := do
  if _reading : chain.any target.same then
    throw (.cycle (chain ++ [target]))
  else
    let ⟨text, _short⟩ ← readImport target importer
    let (statements, finish) := cutLive (mark text.toList)
    let inner ← flattenStatements (fun p => inlinedText (chain ++ [target]) target p) target
      statements
    return inner ++ finish
termination_by Disk.pathsLeft chain
decreasing_by
  refine Disk.pathsLeft_append_lt (fun hmem => ?_) _short
  exact _reading (List.any_eq_true.2 ⟨_, hmem, decide_eq_true rfl⟩)

def flatten (code : List Char) (file : Path) : Flattening (List Char) := do
  let inner ← flattenStatements (inlinedText [file.normalize] file) file (cutLive code).1
  return inner ++ (cutLive code).2

/-- A part of the build of one stylesheet. -/
abbrev Building (α : Type) := ExceptT BuildError Program α

/-- Gives the failure of a step its place in the build. -/
def Building.within {ε α : Type} (place : ε → BuildError) (x : Program (Except ε α)) :
    Building α := do
  match ← x with
  | .ok a => return a
  | .error e => throw (place e)

/-- The text of a stylesheet with all of its imports in place. -/
def readFlat (input : Path) : Building (List Char) := do
  let content ← Building.within (.unreadable input) (Program.request (.read input))
  let code ← Building.within (.unreadable input) (pure (Disk.decode content.1))
  Building.within (.flatten input) (flatten (mark code.toList) input).run

/-- What is done with the text of a stylesheet. It is written before anyone waits for the copies. -/
def finishSheet (config : Config) (outDir input : Path) (flat : List Char) :
    Building BuildSummary := do
  let sheet := Stylesheet.parse (String.ofList flat) (some input)
  let ((sheet, result), copies) ← ((rewriteSheet config sheet).run [] : Program _)
  let stats ← Building.within (.rewrite input) (pure result)
  let output ← Building.within id (pure (outputPath outDir input))
  let text := Stylesheet.print sheet.nodes
  Building.within (.unwritable output) (Program.request (.write output text.toUTF8))
  let copies ← Building.within (.copies input) (Collecting.wait copies)
  return { stats, copies }

def buildSheet (config : Config) (outDir input : Path) : Building BuildSummary := do
  let flat ← readFlat input
  finishSheet config outDir input flat

/-- Those who build the inputs into a directory, with nothing done yet. -/
def builders (config : Config) (inputs : List Path) (outDir : Path) (session : Session) :
    Crew (Except BuildError BuildSummary) :=
  ⟨{ session }, inputs.map fun input => { program := (buildSheet config outDir input).run }⟩

/-- The builders set out when the names are in order and the directory is made. -/
def setOut (config : Config) (inputs : List Path) (outDir : Path) :
    ExceptT BuildError (StateM Session) (Crew (Except BuildError BuildSummary)) := do
  let inputs := inputs.map (·.absolutize config.workDir)
  match checkNames [] inputs with
  | .error e => throw e
  | .ok () => pure ()
  match ← Session.createDirectories outDir with
  | .error cause => throw (.outputDirectory outDir cause)
  | .ok () => pure ()
  return builders config inputs outDir (← get)

/-- What a crew of builders has come to: the first failure among them, or all of their work. Nothing
as long as one of them is on its way. -/
def Crew.summary? (c : Crew (Except BuildError BuildSummary)) :
    Option (Except BuildError BuildSummary) :=
  c.results?.map fun results => (results.mapM id).map (totalOf · c.shared.registry.conflicts)

/-- Builds every input into a directory, under a schedule. Answers the builders in the end. -/
def buildUnder (schedule : List Turn) (config : Config) (inputs : List Path) (outDir : Path)
    (disk : Disk) : Except BuildError (Crew (Except BuildError BuildSummary)) :=
  ((setOut config inputs outDir).run ⟨disk, #[]⟩).1.map (·.run schedule)

end StylesheetAssets.Parallel
