import StylesheetAssets.Journal
import StylesheetAssets.Disk.Basic

/-!
Disks that hold a part of another disk.

A run on such a disk finds what it would find on the whole as soon as the part holds every place on
the way of every path in the run's journal.
-/
namespace StylesheetAssets

/-- The paths that an event asks the disk about. -/
def Event.paths : Event → List Path
  | .examined path => [path]
  | .read path => [path]
  | .wrote path => [path]
  | .createdDirectories path => [path]
  | .copied source destination => [source, destination]
  | _ => []

namespace Disk

/-- The place that one piece of a path leads to. -/
def follow (here : Location) (piece : String) : Location :=
  if piece = "" ∨ piece = "." then here
  else if piece = ".." then here.dropLast
  else here ++ [piece]

/-- The places on the way of some pieces of a path, the first one included. -/
def placesFrom (here : Location) : List String → List Location
  | [] => [here]
  | piece :: rest => here :: placesFrom (follow here piece) rest

/-- The places on the way of a path. -/
def placesOf (d : Disk) (p : Path) : List Location :=
  placesFrom (if p.isAbsolute then [] else d.workDir.getD []) (p.pieces.map String.ofList)

/-- The places on the ways of all paths in a journal, without repetition. -/
def placesOfJournal (d : Disk) (journal : Journal) : List Location :=
  ((journal.toList.flatMap Event.paths).flatMap d.placesOf).eraseDups

/-- What is new or different on a later disk, in the order in which it was put there. -/
def changes (before after : Disk) : List (Location × Entry) :=
  (after.entries.filter fun (l, e) => before.get? l ≠ some e).reverse

end Disk

end StylesheetAssets
