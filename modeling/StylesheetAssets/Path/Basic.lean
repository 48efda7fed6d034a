import StylesheetAssets.Text

/-!
Paths as text, read as lists of components.

Two paths are the same path when their components agree: repeated and trailing separators and
inner `.` pieces carry no meaning, but the text keeps them.
-/
namespace StylesheetAssets

/-- A path in slash notation, spelled as it was given. -/
structure Path where
  text : String
deriving DecidableEq, Inhabited, Repr

/-- One step of a path. `here` stands only for a leading `.`. -/
inductive Component where
  | root
  | here
  | parent
  | name (text : String)
deriving DecidableEq, Inhabited, Repr

namespace Component

def text : Component → String
  | root => "/"
  | here => "."
  | parent => ".."
  | name s => s

/-- The meaning of one piece between separators; empty pieces and `.` mean nothing. -/
def ofPiece? (piece : List Char) : Option Component :=
  if piece = [] ∨ piece = ['.'] then none
  else if piece = ['.', '.'] then some parent
  else some (name (String.ofList piece))

end Component

namespace Path

def empty : Path := ⟨""⟩

def isAbsolute (p : Path) : Bool := p.text.toList.head? = some '/'

/-- The pieces of the text between separators. An absolute path starts with an empty piece. -/
def pieces (p : Path) : List (List Char) := Text.splitOn '/' p.text.toList

/-- Components of the pieces that stand after the start of the path. -/
def bodyComponents (pieces : List (List Char)) : List Component :=
  pieces.filterMap Component.ofPiece?

def components (p : Path) : List Component :=
  if p.isAbsolute then .root :: bodyComponents p.pieces
  else if p.pieces.head? = some ['.'] then .here :: bodyComponents p.pieces
  else bodyComponents p.pieces

/-- Equality of paths: the same components. -/
def same (p q : Path) : Bool := p.components = q.components

/-- `q` seen from `p`. An absolute `q` replaces `p`; an empty `q` leaves a trailing separator. -/
def join (p q : Path) : Path :=
  if q.isAbsolute then q
  else if p.text.toList.getLast?.all (· = '/') then ⟨p.text ++ q.text⟩
  else ⟨p.text ++ "/" ++ q.text⟩

/-- The path spelled by joining its components one after the other. -/
def ofComponents (cs : List Component) : Path :=
  cs.foldl (fun p c => p.join ⟨c.text⟩) empty

def dropIdle (pieces : List (List Char)) : List (List Char) :=
  (pieces.reverse.dropWhile (fun piece => piece = [] ∨ piece = ['.'])).reverse

/-- The pieces of a path up to the last one that means something, after those of its start:
an empty piece for the root, or a leading `.`. -/
def significant (p : Path) : List (List Char) × List (List Char) :=
  match p.pieces with
  | [] => ([], [])
  | first :: rest =>
    if p.isAbsolute || first = ['.'] then ([first], dropIdle rest)
    else ([], dropIdle (first :: rest))

/-- The path without its last component; a root and an empty path have no parent. -/
def parent? (p : Path) : Option Path :=
  match p.significant with
  | (_, body@(_ :: _)) =>
    let start := p.significant.1
    match dropIdle body.dropLast with
    | [] =>
      if p.isAbsolute then some ⟨"/"⟩
      else some ⟨String.ofList (Text.joinWith ['/'] start)⟩
    | body => some ⟨String.ofList (Text.joinWith ['/'] (start ++ body))⟩
  | (_ :: _, []) => if p.isAbsolute then none else some empty
  | ([], []) => none

/-- The directory part, empty where there is none. -/
def directory (p : Path) : Path := p.parent?.getD empty

def fileName? (p : Path) : Option String :=
  match p.components.getLast? with
  | some (.name s) => some s
  | _ => none

/-- Splits a file name at its last dot. A name that starts with its only dot has no extension. -/
def splitExtension (name : String) : String × Option String :=
  let tail := name.toList.reverse.takeWhile (· ≠ '.')
  match name.toList.reverse.dropWhile (· ≠ '.') with
  | '.' :: before@(_ :: _) =>
    (String.ofList before.reverse, some (String.ofList tail.reverse))
  | _ => (name, none)

def stem? (p : Path) : Option String := p.fileName?.map fun name => (splitExtension name).1

/-- The text after the last dot of the file name. -/
def extension? (p : Path) : Option String := p.fileName?.bind fun name => (splitExtension name).2

end Path

end StylesheetAssets
