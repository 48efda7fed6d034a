import StylesheetAssets.Path.Basic

/-!
What a run did, as a list of events in order.

The journal holds the requests to the disk as well as what was said to the user; how the latter
looks on a terminal is not its matter.
-/
namespace StylesheetAssets

inductive Event where
  /-- The size of a file was asked for. -/
  | examined (path : Path)
  | read (path : Path)
  | wrote (path : Path)
  | createdDirectories (path : Path)
  | copied (source destination : Path)
  /-- A line about a topic. -/
  | said (topic text : String)
  /-- A line about a topic for those who asked for details. -/
  | detailed (topic text : String)
  /-- A line on the error stream. -/
  | complained (line : String)
  /-- Text written as it is. -/
  | printed (text : String)
  /-- A line of counters appeared, each with its total. -/
  | progressBegan (counters : List (String × Nat))
  | progressAdvanced (counter : String)
  | progressFinished
  | progressDropped
deriving DecidableEq, Repr

abbrev Journal := Array Event

namespace Journal

def record (e : Event) : StateM Journal Unit := modify (·.push e)

def say (topic text : String) : StateM Journal Unit := record (.said topic text)

def detail (topic text : String) : StateM Journal Unit := record (.detailed topic text)

end Journal

end StylesheetAssets
