import StylesheetAssets.Path.Basic

/-!
Disks: files and directories by their place below the root, without links.
-/
namespace StylesheetAssets

/-- Where something lies: the names on the way from the root to it. -/
abbrev Location := List String

inductive Entry where
  | file (bytes : ByteArray)
  | directory
deriving Inhabited

/-- Files are compared by their bytes. -/
instance : DecidableEq Entry
  | .file a, .file b =>
    decidable_of_iff (a.data = b.data) ⟨fun h => congrArg Entry.file (ByteArray.ext h),
      fun h => congrArg ByteArray.data (Entry.file.inj h)⟩
  | .directory, .directory => .isTrue rfl
  | .file _, .directory => .isFalse nofun
  | .directory, .file _ => .isFalse nofun

/-- Why a disk refuses. -/
inductive DiskError where
  | notFound
  | notADirectory
  | isADirectory
  | alreadyExists
  /-- A file read as text is not UTF-8. -/
  | invalidText
  | nulInPath
  /-- The source of a copy is a directory. -/
  | notAFile
  | nameTooLong
deriving DecidableEq, Inhabited, Repr

namespace DiskError

def message : DiskError → String
  | notFound => "No such file or directory (os error 2)"
  | notADirectory => "Not a directory (os error 20)"
  | isADirectory => "Is a directory (os error 21)"
  | alreadyExists => "File exists (os error 17)"
  | invalidText => "stream did not contain valid UTF-8"
  | nulInPath => "file name contained an unexpected NUL byte"
  | notAFile => "the source path is neither a regular file nor a symlink to a regular file"
  | nameTooLong => "File name too long (os error 36)"

end DiskError

structure Disk where
  entries : List (Location × Entry) := []
  /-- Where relative paths start, unless that directory is gone. -/
  workDir : Option Location := some []
deriving Inhabited

namespace Disk

/-- What lies at a place. The root is always there. -/
def get? (d : Disk) (l : Location) : Option Entry :=
  if l = [] then some .directory else d.entries.lookup l

def put (d : Disk) (l : Location) (e : Entry) : Disk :=
  { d with entries := (l, e) :: d.entries.filter (·.1 ≠ l) }

def files (d : Disk) : List Location :=
  d.entries.filterMap fun (l, e) =>
    match e with
    | .file _ => some l
    | .directory => none

/-- The longest name, and the longest path, in bytes. -/
def maxName : Nat := 255
def maxPath : Nat := 4095

/-- What a path leads to. -/
inductive Target where
  | found (l : Location) (e : Entry)
  /-- Nothing lies there, but its directory exists. A final separator asks for a directory. -/
  | vacant (l : Location) (asDirectory : Bool)
deriving Inhabited

/-- Follows pieces of a path from a place that exists. -/
def walk (d : Disk) (here : Location) (entry : Entry) : List String → Except DiskError Target
  | [] => .ok (.found here entry)
  | piece :: rest =>
    match entry with
    | .file _ => .error .notADirectory
    | .directory =>
      if piece = "" ∨ piece = "." then walk d here entry rest
      else if piece = ".." then walk d here.dropLast .directory rest
      else if maxName < piece.utf8ByteSize then .error .nameTooLong
      else
        let next := here ++ [piece]
        match d.get? next with
        | some entry => walk d next entry rest
        | none => if rest.all (· = "") then .ok (.vacant next (!rest.isEmpty)) else .error .notFound

/-- Follows a path from the root, or from the working directory if it is relative. -/
def resolve (d : Disk) (p : Path) : Except DiskError Target :=
  if p.text.toList.contains '\x00' then .error .nulInPath
  else if p.text.isEmpty then .error .notFound
  else if maxPath < p.text.utf8ByteSize then .error .nameTooLong
  else
    let pieces := p.pieces.map String.ofList
    if p.isAbsolute then d.walk [] .directory pieces
    else
      match d.workDir with
      | some l => d.walk l .directory pieces
      | none => .error .notFound

end Disk

end StylesheetAssets
