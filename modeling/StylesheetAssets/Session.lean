import StylesheetAssets.Disk.Operations
import StylesheetAssets.Journal

/-!
A disk together with the journal of what was done with it.
-/
namespace StylesheetAssets

structure Session where
  disk : Disk
  journal : Journal := #[]

namespace Session

def noting {α : Type} (x : StateM Journal α) : StateM Session α := fun s =>
  let (a, journal) := x s.journal
  (a, { s with journal })

def record (e : Event) : StateM Session Unit := noting (Journal.record e)

def say (topic text : String) : StateM Session Unit := noting (Journal.say topic text)

def detail (topic text : String) : StateM Session Unit := noting (Journal.detail topic text)

def changing {α : Type} (operation : Disk → α × Disk) : StateM Session α := fun s =>
  let (a, disk) := operation s.disk
  (a, { s with disk })

def size (p : Path) : StateM Session (Except DiskError Nat) := do
  record (.examined p)
  return (← get).disk.size p

def readFile (p : Path) : StateM Session (Except DiskError ByteArray) := do
  record (.read p)
  return (← get).disk.readFile p

def readText (p : Path) : StateM Session (Except DiskError String) := do
  record (.read p)
  return (← get).disk.readText p

def writeFile (p : Path) (bytes : ByteArray) : StateM Session (Except DiskError Unit) := do
  record (.wrote p)
  changing (·.writeFile p bytes)

def createDirectories (p : Path) : StateM Session (Except DiskError Unit) := do
  record (.createdDirectories p)
  changing (·.createDirectories p)

def copyFile (source destination : Path) : StateM Session (Except DiskError Nat) := do
  record (.copied source destination)
  changing (·.copyFile source destination)

end Session

end StylesheetAssets
