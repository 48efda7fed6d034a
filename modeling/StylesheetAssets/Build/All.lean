import StylesheetAssets.Build.Sheet
import StylesheetAssets.Config.Overrides

/-!
Builds of several stylesheets into one directory.
-/
namespace StylesheetAssets

/-- Refuses inputs without a name, and two inputs of one name. `seen` holds the names of the inputs
before these. -/
def checkNames (seen : List (String × Path)) : List Path → Except BuildError Unit
  | [] => .ok ()
  | input :: rest =>
    match input.fileName? with
    | none => .error (.noFileName input)
    | some name =>
      match seen.lookup name with
      | some first => .error (.clash first input name)
      | none => checkNames ((name, input) :: seen) rest

def totalOf (sheets : List BuildSummary) (conflicts : Nat) : BuildSummary where
  stats := sheets.foldl (fun total sheet => total.merge sheet.stats) {}
  copies := sheets.foldl (fun total sheet => total + sheet.copies) 0
  conflicts := conflicts

/-- A line about a number of things, if there are any. -/
def sayCounted (topic : String) (n : Nat) (noun after : String) : StateM Session Unit :=
  if 0 < n then Session.say topic (Text.counted n noun ++ after) else pure ()

def announce (sheets : Nat) (outDir : Path) (total : BuildSummary) : StateM Session Unit := do
  Session.say "build" (Text.counted sheets "stylesheet" ++ " -> " ++ outDir.text)
  sayCounted "inline" total.stats.inlined "reference" ""
  sayCounted "copy" total.copies "asset" ""
  sayCounted "warning" total.conflicts "asset" " written from more than one source"
  Session.detail "build" (Text.counted total.stats.skipped "reference" ++ " left unmodified")

/-- Builds the sheets one after the other. One that fails does not keep the others from being
built. -/
def buildEach (config : Config) (outDir : Path) (inputs : List Path) :
    StateT CopyRegistry (StateM Session) (List (Except BuildError BuildSummary)) :=
  inputs.mapM fun input => do
    let result ← (buildSheet config outDir input).run
    Session.record (.progressAdvanced "css")
    return result

/-- Builds every input into a directory. The first failure is the failure of the whole. -/
def buildAll (config : Config) (inputs : List Path) (outDir : Path) :
    ExceptT BuildError (StateM Session) BuildSummary := do
  let inputs := inputs.map (·.absolutize config.workDir)
  match checkNames [] inputs with
  | .error e => throw e
  | .ok () => pure ()
  match ← Session.createDirectories outDir with
  | .error cause => throw (.outputDirectory outDir cause)
  | .ok () => pure ()
  Session.record (.progressBegan [("css", inputs.length)])
  let (results, registry) ← (buildEach config outDir inputs).run {}
  match results.mapM id with
  | .error e =>
    Session.record .progressDropped
    throw e
  | .ok sheets =>
    let total := totalOf sheets registry.conflicts
    Session.record .progressFinished
    announce inputs.length outDir total
    return total

/-- The configuration of a build: that of a file if there is one, under the overrides. -/
def loadConfig (file workDir outDir : Path) (overrides : Overrides) :
    ExceptT BuildError (StateM Session) Config := do
  let path := file.absolutize workDir
  match ← (Config.load path workDir).run with
  | .error cause => throw (.config path cause)
  | .ok (config, found) =>
    if found then Session.detail "config" ("loaded " ++ path.text)
    return config.withOverrides overrides outDir

end StylesheetAssets
