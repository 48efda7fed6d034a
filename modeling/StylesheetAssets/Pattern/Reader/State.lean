import StylesheetAssets.Pattern.Expression
import StylesheetAssets.Text

/-!
Reading the written form of regular expressions, character by character.

Flags that are set on the way decide how what follows is read. With one of them white space and
comments mean nothing in most places.
-/
namespace StylesheetAssets.Pattern

inductive ReadError where
  | unopenedGroup
  | unclosedGroup
  | unclosedClass
  | missingOperand
  | badCount
  | badEscape
  | badClassItem
  | badRange
  | badFlags
  | badGroupName
  | lookAround
  | backReference
  | unknownProperty
  | unknownBoundary
  /-- Something that only works on characters, with Unicode switched off. -/
  | notAscii
  | nestedTooDeeply
deriving DecidableEq, Inhabited, Repr

structure Flags where
  insensitive : Bool := false
  multiLine : Bool := false
  dotAll : Bool := false
  swapGreed : Bool := false
  unicode : Bool := true
  crlf : Bool := false
  /-- White space and comments between the parts are skipped. -/
  spaced : Bool := false
deriving DecidableEq, Repr

structure ReadState where
  rest : List Char
  flags : Flags := {}
  /-- The number of groups that have been opened so far. -/
  groups : Nat := 0
  groupNames : List (List Char) := []

abbrev Read := StateT ReadState (Except ReadError)

/-- Something read, with the number of levels that are nested in it. -/
structure Nested (α : Type) where
  value : α
  levels : Nat

namespace Read

def peek : Read (Option Char) := return (← get).rest.head?

def flags : Read Flags := return (← get).flags

/-- The next character, which has to be there. -/
def expect (e : ReadError) : Read Char := do
  match ← peek with
  | some c => return c
  | none => throw e

/-- Passes over a number of characters. -/
def advance (n : Nat) : Read Unit := modify fun s => { s with rest := s.rest.drop n }

/-- The rest behind white space and comments. A comment goes to the end of its line. -/
def dropSpaced : (inComment : Bool) → List Char → List Char
  | _, [] => []
  | true, c :: s => dropSpaced (c ≠ '\n') s
  | false, c :: s =>
    if c = '#' then dropSpaced true s
    else if Text.isBlank c then dropSpaced false s
    else c :: s

theorem dropSpaced_suffix (inComment : Bool) (s : List Char) : dropSpaced inComment s <:+ s := by
  fun_induction dropSpaced inComment s with
  | case1 => exact List.suffix_refl _
  | case2 c s ih => exact ih.trans (List.suffix_cons c s)
  | case3 s ih => exact ih.trans (List.suffix_cons _ s)
  | case4 c s _ _ ih => exact ih.trans (List.suffix_cons c s)
  | case5 c s => exact List.suffix_refl _

def skipSpace : Read Unit :=
  modify fun s => if s.flags.spaced then { s with rest := dropSpaced false s.rest } else s

/-- Passes over a character and the space behind it. -/
def advanceSpaced : Read Unit := do
  advance 1
  skipSpace

/-- Passes over a text if it comes next. -/
def accept (text : String) : Read Bool := do
  match Text.stripStart? text.toList (← get).rest with
  | some rest =>
    modify fun s => { s with rest }
    return true
  | none => return false

/-- Collects characters of a kind that come next, with space between them. -/
def collectSpaced (p : Char → Bool) : (fuel : Nat) → (done : List Char) → Read (List Char)
  | 0, done => return done.reverse
  | fuel + 1, done => do
    match ← peek with
    | none => return done.reverse
    | some c =>
      if !p c then return done.reverse
      advanceSpaced
      collectSpaced p fuel (c :: done)

/-- The characters of a kind that come next, with space between them. -/
def takeSpaced (p : Char → Bool) : Read (List Char) := do
  collectSpaced p (← get).rest.length []

/-- The character behind the next one, past white space and the mark of one comment. The text of
the comment is not passed over. -/
def peekBehind : Read (Option Char) := do
  let s ← get
  let rest := s.rest.drop 1
  if !s.flags.spaced then return rest.head?
  let visible :=
    match rest.dropWhile Text.isBlank with
    | '#' :: comment => comment.dropWhile Text.isBlank
    | other => other
  return visible.head?.orElse fun _ => rest.head?

/-- Puts a level around something that was read. -/
def enclose {α : Type} (value : α) (levels : Nat) : Read (Nested α) :=
  if levels < 250 then return ⟨value, levels + 1⟩ else throw .nestedTooDeeply

end Read

end StylesheetAssets.Pattern
