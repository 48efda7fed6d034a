import StylesheetAssets.Disk.Following
import StylesheetAssets.Import.Marker
import StylesheetAssets.Path.Lexical
import StylesheetAssets.Url.Fragment

/-!
Stylesheets with their imports in place.

Each live `@import` of a local file is replaced by the text of that file, marked and flattened in
its turn. Imports from the network stay as they are. A path that is imported while it is being
read closes a cycle; the paths that are not being read yet become fewer with every level, so that
flattening ends on every disk.
-/
namespace StylesheetAssets.Import

inductive FlattenError where
  | unreadable (path importer : Path) (cause : DiskError)
  /-- The files being read, from the first on, and the import that leads back to one of them. -/
  | cycle (chain : List Path)
deriving DecidableEq, Repr

def FlattenError.message : FlattenError → String
  | unreadable path importer _ =>
    "failed to read import `" ++ path.text ++ "` (imported from " ++ importer.text ++ ")"
  | cycle chain => "import cycle: " ++ " -> ".intercalate (chain.map Path.text)

/-- Whether an import is left alone: it names no file, or none on this disk. -/
def staysInPlace (path : List Char) : Bool := path.isEmpty || Url.hasScheme path

/-- The file that an import in `file` names. -/
def targetOf (file : Path) (path : List Char) : Path :=
  Path.absolutize ⟨String.ofList path⟩ file.directory

def readImport (disk : Disk) (target file : Path) :
    ExceptT FlattenError (StateM Journal) { text : String // disk.readText target = .ok text } := do
  Journal.record (.read target)
  match hread : disk.readText target with
  | .error cause => throw (.unreadable target file cause)
  | .ok text => return ⟨text, hread⟩

/-- The text of the statements of `file`, each with the text in front of it. `chain` holds the
paths being read. -/
def flattenStatements (disk : Disk) (chain : List Path) (file : Path) :
    List (List Char × Statement) → ExceptT FlattenError (StateM Journal) (List Char)
  | [] => return []
  | (before, i) :: rest => do
    if staysInPlace i.path then
      let after ← flattenStatements disk chain file rest
      return before ++ i.text ++ after
    else
      let target := targetOf file i.path
      if _reading : chain.any target.same then
        throw (.cycle (chain ++ [target]))
      else
        let ⟨text, _hread⟩ ← readImport disk target file
        let marked ← (markFile text.toList target : StateM Journal _)
        let (statements, finish) := cutLive marked
        let inlined ← flattenStatements disk (chain ++ [target]) target statements
        Journal.detail "import" s!"inlined {target.text}"
        let after ← flattenStatements disk chain file rest
        return before ++ inlined ++ finish ++ after
termination_by statements => (Disk.pathsLeft chain, statements.length)
decreasing_by
  · apply Prod.Lex.right
    simp
  · apply Prod.Lex.left
    refine Disk.pathsLeft_append_lt (fun hmem => ?_) (Disk.short_of_readText _hread)
    exact _reading (List.any_eq_true.2 ⟨_, hmem, decide_eq_true rfl⟩)
  · apply Prod.Lex.right
    simp

/-- A text that was read from `file`, with all of its imports in place. -/
def flatten (disk : Disk) (code : List Char) (file : Path) :
    ExceptT FlattenError (StateM Journal) (List Char) := do
  let inlined ← flattenStatements disk [file.normalize] file (cutLive code).1
  return inlined ++ (cutLive code).2

end StylesheetAssets.Import
