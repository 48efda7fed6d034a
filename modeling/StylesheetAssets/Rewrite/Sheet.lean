import StylesheetAssets.Import.Provenance
import StylesheetAssets.Rewrite.Value
import StylesheetAssets.Stylesheet.Tree
import StylesheetAssets.Stylesheet.Values

/-!
Stylesheets with their references resolved.

Each reference is resolved against the directory of the file that it was written in. The markers
that tell these directories are taken out once all references are resolved. A pass that fails
leaves the sheet as it then is, with its markers.
-/
namespace StylesheetAssets

open Stylesheet (Node Sheet)

/-- A pass over the values of one sheet, which counts its references. -/
abbrev Rewriting (α : Type) := StateT RewriteStats (StateT CopyQueue (StateM Session)) α

/-- Rewrites one value and adds to the counts. One that fails adds nothing: the pass ends with it,
and answers no counts. -/
def visitValue (config : Config) (base : Path) (value : String) :
    Rewriting (Except RewriteError String) := do
  match ← (rewriteValue config base value).run with
  | .ok (value, stats) =>
    modify (·.merge stats)
    return .ok value
  | .error e => return .error e

/-- Top nodes, each with a flag that says whether it is a marker. -/
abbrev Flagged := List (Node × Bool)

/-- Rewrites the top nodes from the given number on. Answers all of them, and the failure at which
the pass stopped. -/
def rewriteNodes (config : Config) (tracker : Import.Tracker) (index : Nat) :
    List Node → Rewriting (Flagged × Option RewriteError)
  | [] => return ([], tracker.unterminated?.map .unterminated)
  | node :: rest => do
    let (step, tracker) ← Session.noting (tracker.observe index node)
    match step with
    | .remove =>
      let (rest, failure) ← rewriteNodes config tracker (index + 1) rest
      return ((node, true) :: rest, failure)
    | .keep =>
      let (rest, failure) ← rewriteNodes config tracker (index + 1) rest
      return ((node, false) :: rest, failure)
    | .scan base =>
      match ← node.visitValues (visitValue config base) with
      | (node, some failure) => return ((node, false) :: rest.map (·, false), some failure)
      | (node, none) =>
        let (rest, failure) ← rewriteNodes config tracker (index + 1) rest
        return ((node, false) :: rest, failure)

def dropMarkers (nodes : Flagged) : List Node := (nodes.filter (!·.2)).map (·.1)

/-- Resolves the references of a sheet. Answers the sheet as it is afterwards. -/
def rewriteSheet (config : Config) (sheet : Sheet) :
    StateT CopyQueue (StateM Session) (Sheet × Except RewriteError RewriteStats) := do
  match sheet.source with
  | none => return (sheet, .error .noSource)
  | some source =>
    let rootDir := source.directory.absolutize config.workDir
    Session.detail "rewrite" s!"{source.text} (base {rootDir.text})"
    let ((nodes, failure), stats) ← (rewriteNodes config ⟨rootDir, []⟩ 0 sheet.nodes).run {}
    match failure with
    | some e => return ({ sheet with nodes := nodes.map (·.1) }, .error e)
    | none => return ({ sheet with nodes := dropMarkers nodes }, .ok stats)

end StylesheetAssets
