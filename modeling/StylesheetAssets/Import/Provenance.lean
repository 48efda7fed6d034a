import StylesheetAssets.Import.Marker
import StylesheetAssets.Path.Lexical
import StylesheetAssets.Stylesheet.Node

/-!
Where the nodes of a flattened stylesheet came from.

The marker comments among the top nodes are brackets. Inside a pair of them, paths are relative to
the directory of the imported file; pairs nest, and each directory is relative to the one around.
-/
namespace StylesheetAssets.Import

open Stylesheet (Node)

/-- A start marker whose end has not come yet. -/
structure OpenImport where
  /-- The directory of the imported file, seen from the directory of the top file. -/
  origin : Path
  path : String
  /-- The number of the marker among the top nodes. -/
  start : Nat
deriving DecidableEq, Repr

/-- What is to be done with a top node. -/
inductive Step where
  /-- It is a marker. -/
  | remove
  /-- Its values are to be resolved against a directory. -/
  | scan (directory : Path)
  | keep
deriving DecidableEq, Repr

/-- A start marker without an end marker. -/
structure Unterminated where
  path : String
  start : Nat
deriving DecidableEq, Repr

structure Tracker where
  rootDir : Path
  /-- The open imports, the innermost first. -/
  imports : List OpenImport := []
deriving DecidableEq, Repr

namespace Tracker

/-- The directory that paths at the present place are relative to. -/
def baseDir (t : Tracker) : Path :=
  match t.imports with
  | [] => t.rootDir
  | i :: _ => t.rootDir.join i.origin

/-- The directory of an import at the present place. -/
def originOf (t : Tracker) (path : String) : Path :=
  let directory := Path.directory ⟨path⟩
  match t.imports with
  | [] => directory
  | i :: _ => i.origin.join directory

def enter (t : Tracker) (index : Nat) (path : String) : Tracker :=
  { t with imports := ⟨t.originOf path, path, index⟩ :: t.imports }

/-- Closes the innermost import; outside of all imports nothing happens. -/
def leave (t : Tracker) : Tracker := { t with imports := t.imports.tail }

/-- Whether a node that is no comment is to be scanned: inside an import it needs a block. -/
def scans (t : Tracker) (node : Node) : Bool :=
  if t.imports.isEmpty then node.isRule else node.children?.isSome

/-- Passes over the top node with the given number. -/
def observe (t : Tracker) (index : Nat) (node : Node) : StateM Journal (Step × Tracker) := do
  match node.commentText? with
  | some text =>
    match startMarkerPath? text.toList with
    | some path =>
      let next := t.enter index (String.ofList path)
      Journal.detail "import"
        ("span " ++ String.ofList path ++ " from " ++ (t.originOf (String.ofList path)).text)
      return (.remove, next)
    | none =>
      if isEndMarker text.toList then
        if t.imports.isEmpty then
          Journal.detail "import" s!"stray end marker at node {index}"
        return (.remove, t.leave)
      else return (.keep, t)
  | none => return (if t.scans node then .scan t.baseDir else .keep, t)

def unterminated? (t : Tracker) : Option Unterminated :=
  t.imports.head?.map fun i => ⟨i.path, i.start⟩

end Tracker

end StylesheetAssets.Import
