import StylesheetAssets.Pattern.Reader.Bracket
import StylesheetAssets.Pattern.Reader.Group

/-!
The written form of regular expressions.

The notation has alternatives, groups with names and flags, counted repetition, nested sets with
set operations, and properties of characters. It has neither look-around nor references back. At
most 250 levels of groups, repetitions, sequences, choices and sets may be nested.
-/
namespace StylesheetAssets.Pattern

open Unicode (CharSet)

structure Item where
  content : Nested Expression
  /-- Flags for what follows are no part that can be repeated. -/
  repeatable : Bool

/-- What has been read of a group, the last first. -/
structure Alternatives where
  /-- The items of the alternative that is read. -/
  items : List Item := []
  /-- The alternatives in front of it. -/
  before : List (Nested Expression) := []

/-- A group that is open: what has been read in front of it, and the flags there. -/
structure OpenGroup where
  outside : Alternatives
  flags : Flags
  number : Option Nat

namespace Alternatives

def addItem (a : Alternatives) (content : Nested Expression) : Alternatives :=
  { a with items := ⟨content, true⟩ :: a.items }

end Alternatives

namespace Read

/-- Several things as one, on a level of their own. A single thing stands for itself. -/
def combine (join : List Expression → Expression) (parts : List (Nested Expression)) :
    Read (Nested Expression) :=
  match parts with
  | [part] => return part
  | [] => return ⟨.empty, 0⟩
  | parts =>
    enclose (join (parts.map (·.value))) ((parts.map (·.levels)).foldl max 0)

/-- The alternative that ends here. -/
def closeItems (a : Alternatives) : Read (Nested Expression) :=
  combine .concat (a.items.reverse.map (·.content))

/-- All alternatives, the last of which ends here. -/
def closeAlternatives (a : Alternatives) : Read (Nested Expression) := do
  combine .alternation (a.before.reverse ++ [← closeItems a])

def repeatLast (a : Alternatives) (least : Nat) (most : Option Nat) (few : Bool) :
    Read Alternatives := do
  match a.items with
  | ⟨content, true⟩ :: rest =>
    let greedy := few == (← flags).swapGreed
    let repetition ← enclose (.repeated content.value least most greedy) content.levels
    return { a with items := ⟨repetition, true⟩ :: rest }
  | _ => throw .missingOperand

/-- A character by itself; without its case it is one of several. -/
def literal (c : Char) (byte : Bool) : Read Expression := do
  let f ← flags
  if byte && !f.unicode && 128 ≤ c.toNat then throw .notAscii
  if !f.insensitive then return .text [c]
  return .ofSet (if f.unicode then Unicode.caseMates c else Unicode.asciiCaseMates c)

/-- A part that is one character, set or assertion. -/
def primitive (c : Char) : Read Expression := do
  let f ← flags
  match c with
  | '\\' =>
    match ← escape with
    | .literal c byte => literal c byte
    | .set s => return .ofSet s
    | .assertion a => return .assertion a
  | '.' =>
    advance 1
    if !f.unicode then throw .notAscii
    let stops := if f.crlf then ['\r', '\n'] else ['\n']
    return .ofSet (if f.dotAll then .any else (CharSet.ofChars stops).complement)
  | '^' =>
    advance 1
    return .assertion (if f.multiLine then .lineStart f.crlf else .textStart)
  | '$' =>
    advance 1
    return .assertion (if f.multiLine then .lineEnd f.crlf else .textEnd)
  | c =>
    advance 1
    literal c false

def closeGroup (group : OpenGroup) (inside : Alternatives) : Read Alternatives := do
  advance 1
  let body ← closeAlternatives inside
  modify fun s => { s with flags := group.flags }
  let value :=
    match group.number with
    | some n => .group n body.value
    | none => body.value
  return group.outside.addItem (← enclose value body.levels)

/-- The rest of a text, with the groups that are open. Each step passes over a character, so there
are no more than `fuel`. -/
def alternatives : (fuel : Nat) → List OpenGroup → Alternatives → Read (Nested Expression)
  | 0, _, _ => throw .unclosedGroup
  | fuel + 1, groups, a => do
    skipSpace
    match ← peek with
    | none => if groups.isEmpty then closeAlternatives a else throw .unclosedGroup
    | some '(' =>
      advance 1
      skipSpace
      match ← opening with
      | .flags behind =>
        modify fun s => { s with flags := behind }
        alternatives fuel groups { a with items := ⟨⟨.empty, 0⟩, false⟩ :: a.items }
      | .group number inside =>
        let outside ← flags
        modify fun s => { s with flags := inside }
        alternatives fuel (⟨a, outside, number⟩ :: groups) {}
    | some ')' =>
      match groups with
      | group :: rest => alternatives fuel rest (← closeGroup group a)
      | [] => throw .unopenedGroup
    | some '|' =>
      advance 1
      alternatives fuel groups { before := (← closeItems a) :: a.before }
    | some '[' => alternatives fuel groups (a.addItem (← setExpression fuel))
    | some '?' =>
      advance 1
      alternatives fuel groups (← repeatLast a 0 (some 1) (← prefersFew))
    | some '*' =>
      advance 1
      alternatives fuel groups (← repeatLast a 0 none (← prefersFew))
    | some '+' =>
      advance 1
      alternatives fuel groups (← repeatLast a 1 none (← prefersFew))
    | some '\x7b' =>
      let (least, most) ← bounds
      advanceSpaced
      alternatives fuel groups (← repeatLast a least most (← prefersFew))
    | some c => alternatives fuel groups (a.addItem ⟨← primitive c, 0⟩)
where
  setExpression (fuel : Nat) : Read (Nested Expression) := do
    let s ← bracket fuel
    return ⟨.ofSet s.value, s.levels⟩

end Read

def Expression.read (source : String) : Except ReadError Expression := do
  let text := source.toList
  let (e, _) ← (Read.alternatives (text.length + 1) [] {}).run { rest := text }
  return e.value

end StylesheetAssets.Pattern
