import StylesheetAssets.Parallel.Copies
import StylesheetAssets.Rewrite.Sheet

/-!
The rewriting of a stylesheet as a program: what it asks for is asked for one by one, and its copies
are made in the background. What it says to the user is left out.
-/
namespace StylesheetAssets.Parallel

open Stylesheet (Node Sheet)

/-- What is answered beside some notes. -/
def unnoted {α : Type} (x : StateM Journal α) : α := (x.run #[]).1

/-- A step that asks for no copies. -/
def Collecting.ofProgram {α : Type} (x : Program (Except RewriteError α)) : Collecting α :=
  ExceptT.mk (monadLift x)

def resolveAsset (path : Path) : Program (Except RewriteError AssetTarget) := do
  match ← Program.request (.size path) with
  | .ok size => return .ok ⟨path, size, path.extension?.getD ""⟩
  | .error cause => return .error (.asset path cause)

def readAsset (target : AssetTarget) : Program (Except RewriteError ByteArray) := do
  match ← Program.request (.read target.path) with
  | .ok content => return .ok content.1
  | .error cause => return .error (.asset target.path cause)

def makeDirectory (directory : Path) : Collecting Unit := do
  match ← Program.request (.createDirectories directory) with
  | .ok () => return ()
  | .error cause => throw (.outputDirectory directory cause)

/-- The hash of a file's content, if copies carry it in their names. -/
def hashOf (config : Config) (target : AssetTarget) :
    Collecting (Option Digest.ContentHash) := do
  if config.hash then
    let bytes ← Collecting.ofProgram (readAsset target)
    return some (Digest.ContentHash.ofBytes bytes)
  else return none

/-- Asks for a copy of a file and answers the path by which to refer to it. -/
def relocate (config : Config) (target : AssetTarget) (directory : Path) : Collecting String := do
  makeDirectory directory
  let hash ← hashOf config target
  let destination := directory.join ⟨target.outputName hash⟩
  Collecting.request target.path destination
  return unnoted (referencePath destination config.cssOutput config.workDir)

def resolveReference (config : Config) (base : Path) (reference : List Char) :
    Collecting Resolution := do
  let (file, suffix) := Url.splitSuffix reference
  let file := String.ofList file
  match config.route? file with
  | none => return .skipped
  | some (_, directory) =>
    let target ← Collecting.ofProgram (resolveAsset (Path.absolutize ⟨file⟩ base))
    if target.size ≤ config.limit then
      let bytes ← Collecting.ofProgram (readAsset target)
      return .inlined (target.dataUri bytes)
    else
      let path ← relocate config target directory
      let start := if config.slash then "./" else ""
      return .relocated (start ++ path ++ String.ofList suffix)

/-- Resolves a fragment of a value if it is a reference to a file. -/
def resolveFragment (config : Config) (base : Path) :
    Url.Fragment → Collecting (Url.Fragment × RewriteStats)
  | .char c => return (.char c, {})
  | .url o => do
    if o.isLocal then
      let resolution ← resolveReference config base o.path
      match resolution.text? with
      | some text => return (.url (o.withPath text.toList), resolution.stats)
      | none => return (.url o, resolution.stats)
    else return (.url o, {})

def rewriteValue (config : Config) (base : Path) (value : String) :
    Collecting (String × RewriteStats) := do
  let resolved ← (Url.fragments none value.toList).mapM (resolveFragment config base)
  return (String.ofList (Url.spell (resolved.map (·.1))),
    resolved.foldl (fun stats r => stats.merge r.2) {})

/-- A pass over the values of one sheet, which counts its references. -/
abbrev Rewriting (α : Type) := StateT RewriteStats (StateT (List Pending) Program) α

def visitValue (config : Config) (base : Path) (value : String) :
    Rewriting (Except RewriteError String) := do
  match ← (rewriteValue config base value).run with
  | .ok (value, stats) =>
    modify (·.merge stats)
    return .ok value
  | .error e => return .error e

def rewriteNodes (config : Config) (tracker : Import.Tracker) (index : Nat) :
    List Node → Rewriting (Flagged × Option RewriteError)
  | [] => return ([], tracker.unterminated?.map .unterminated)
  | node :: rest => do
    let (step, tracker) := unnoted (tracker.observe index node)
    match step with
    | .remove =>
      let (rest, failure) ← rewriteNodes config tracker (index + 1) rest
      return ((node, true) :: rest, failure)
    | .keep =>
      let (rest, failure) ← rewriteNodes config tracker (index + 1) rest
      return ((node, false) :: rest, failure)
    | .scan base =>
      match ← node.visitValues (visitValue config base) with
      | (node, some failure) => return ((node, false) :: rest.map (·, false), some failure)
      | (node, none) =>
        let (rest, failure) ← rewriteNodes config tracker (index + 1) rest
        return ((node, false) :: rest, failure)

/-- Resolves the references of a sheet. Answers the sheet as it is afterwards. -/
def rewriteSheet (config : Config) (sheet : Sheet) :
    StateT (List Pending) Program (Sheet × Except RewriteError RewriteStats) := do
  match sheet.source with
  | none => return (sheet, .error .noSource)
  | some source =>
    let rootDir := source.directory.absolutize config.workDir
    let ((nodes, failure), stats) ← (rewriteNodes config ⟨rootDir, []⟩ 0 sheet.nodes).run {}
    match failure with
    | some e => return ({ sheet with nodes := nodes.map (·.1) }, .error e)
    | none => return ({ sheet with nodes := dropMarkers nodes }, .ok stats)

end StylesheetAssets.Parallel
