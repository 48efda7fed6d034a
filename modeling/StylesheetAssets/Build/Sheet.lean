import StylesheetAssets.Build.Error
import StylesheetAssets.Rewrite.Sheet
import StylesheetAssets.Stylesheet.Printer

/-!
From one stylesheet to its place in the output directory.
-/
namespace StylesheetAssets

/-- What was done for one stylesheet, or for all of them. -/
structure BuildSummary where
  stats : RewriteStats := {}
  /-- The copies that were made. What was asked for twice was copied once. -/
  copies : Nat := 0
  /-- How often a copy was written over one from another source. -/
  conflicts : Nat := 0
deriving DecidableEq, Inhabited, Repr

/-- A part of a build. All stylesheets share one registry, which outlasts a failure. -/
abbrev Building (α : Type) := ExceptT BuildError (StateT CopyRegistry (StateM Session)) α

namespace Building

/-- Gives the failure of a step its place in the build. -/
def within {ε α : Type} (place : ε → BuildError) (x : StateM Session (Except ε α)) :
    Building α := do
  match ← x with
  | .ok a => return a
  | .error e => throw (place e)

/-- Runs something with an empty queue of copies. Answers also what is in the queue in the end. -/
def queueing {α : Type} (x : StateT CopyQueue (StateM Session) α) : Building (α × CopyQueue) := do
  let (a, queue) ← (x.run { registry := ← get } : StateM Session _)
  set queue.registry
  return (a, queue)

end Building

/-- The text of a stylesheet with all of its imports in place. -/
def readFlat (input : Path) : Building (List Char) := do
  let code ← Building.within (.unreadable input) (Session.readText input)
  let marked ← Session.noting (Import.markFile code.toList input)
  let disk := (← getThe Session).disk
  Building.within (.flatten input) (Session.noting (Import.flatten disk marked input).run)

def outputPath (outDir input : Path) : Except BuildError Path :=
  match input.fileName? with
  | some name => .ok (outDir.join ⟨name⟩)
  | none => .error (.noFileName input)

/-- What is done with the text of a stylesheet. It is written before anyone looks at how the copies
went. -/
def finishSheet (config : Config) (outDir input : Path) (flat : List Char) :
    Building BuildSummary := do
  let sheet := Stylesheet.parse (String.ofList flat) (some input)
  let ((sheet, result), queue) ← Building.queueing (rewriteSheet config sheet)
  let stats ← Building.within (.rewrite input) (pure result)
  let output ← Building.within id (pure (outputPath outDir input))
  let text := Stylesheet.print sheet.nodes
  Building.within (.unwritable output) (Session.writeFile output text.toUTF8)
  Session.detail "build" s!"{input.text} -> {output.text}"
  let copies ← Building.within (.copies input) (pure queue.finish)
  return { stats, copies }

def buildSheet (config : Config) (outDir input : Path) : Building BuildSummary := do
  let flat ← readFlat input
  finishSheet config outDir input flat

end StylesheetAssets
