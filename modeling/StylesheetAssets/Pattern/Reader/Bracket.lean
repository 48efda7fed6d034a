import StylesheetAssets.Pattern.Reader.Escape

/-!
Sets of characters in brackets, which nest and are combined by operations.

What is open while a set is read is kept in a stack: brackets, and operations that wait for their
right sides.
-/
namespace StylesheetAssets.Pattern

open Unicode (CharSet)

/-- Items side by side, whose union is meant. -/
structure SetItems where
  set : CharSet := .empty
  count : Nat := 0
  levels : Nat := 0

inductive SetOperation where
  | intersection
  | difference
  | exclusive

/-- What is open around the items that are read. -/
inductive OpenSet where
  /-- A bracket, and the items in front of it. -/
  | bracket (before : SetItems) (negated : Bool)
  | operation (kind : SetOperation) (left : Nested CharSet)

namespace SetItems

def add (items : SetItems) (set : CharSet) (levels : Nat) : SetItems :=
  ⟨items.set ∪ set, items.count + 1, max items.levels levels⟩

end SetItems

namespace Read

/-- Items as one set. Two of them are a level of their own. -/
def gather (items : SetItems) : Read (Nested CharSet) :=
  if items.count ≤ 1 then return ⟨items.set, items.levels⟩ else enclose items.set items.levels

/-- A character by itself; without Unicode an ASCII character. -/
def member (c : Char) : Read CharSet := do
  if !(← flags).unicode && 128 ≤ c.toNat then throw .notAscii
  return .single c

/-- One item of a set: a character, or a set of its own. -/
def setItem : Read (Char ⊕ CharSet) := do
  let c ← expect .unclosedClass
  if c = '\\' then
    match ← escape with
    | .literal c _ => return .inl c
    | .set s => return .inr s
    | .assertion _ => throw .badClassItem
  else
    advance 1
    return .inl c

/-- A single item or a range of characters. A dash at the end or in front of another one is no
range. -/
def setRange : Read CharSet := do
  let first ← setItem
  skipSpace
  let next ← expect .unclosedClass
  let behind ← peekBehind
  if next ≠ '-' || behind = some ']' || behind = some '-' then
    match first with
    | .inl c => member c
    | .inr s => return s
  else
    advanceSpaced
    match first, ← setItem with
    | .inl a, .inl b =>
      if b < a then throw .badRange
      let _ ← member a
      let _ ← member b
      return .between a b
    | _, _ => throw .badRange

def asciiSets : List (List String × List String) := [
  (["alnum"], ["30-39 41-5A 61-7A"]),
  (["alpha"], ["41-5A 61-7A"]),
  (["ascii"], ["0-7F"]),
  (["blank"], ["9 20"]),
  (["cntrl"], ["0-1F 7F"]),
  (["digit"], ["30-39"]),
  (["graph"], ["21-7E"]),
  (["lower"], ["61-7A"]),
  (["print"], ["20-7E"]),
  (["punct"], ["21-2F 3A-40 5B-60 7B-7E"]),
  (["space"], ["9-D 20"]),
  (["upper"], ["41-5A"]),
  (["word"], ["30-39 41-5A 5F 61-7A"]),
  (["xdigit"], ["30-39 41-46 61-66"])]

/-- A named set such as `[:alpha:]`, if one comes next. -/
def asciiSet? : Read (Option CharSet) := do
  let before ← get
  if !(← accept "[:") then return none
  let negated ← accept "^"
  let name := (← get).rest.takeWhile (· ≠ ':')
  advance name.length
  if ← accept ":]" then
    match CharSet.named? asciiSets (String.ofList name) with
    | some s => return some (← foldAndNegate negated s)
    | none => pure ()
  set before
  return none

def setOperation? : Read (Option SetOperation) := do
  if ← accept "&&" then return some .intersection
  if ← accept "--" then return some .difference
  if ← accept "~~" then return some .exclusive
  return none

def applyOperation (right : Nested CharSet) :
    List OpenSet → Read (Nested CharSet × List OpenSet)
  | .operation kind left :: rest => do
    let a ← fold left.value
    let b ← fold right.value
    let combined :=
      match kind with
      | .intersection => a ∩ b
      | .difference => a \ b
      | .exclusive => a.exclusive b
    return (← enclose combined (max left.levels right.levels), rest)
  | stack => return (right, stack)

/-- Dashes at the start of a set stand for themselves. -/
def leadingDashes : (fuel : Nat) → SetItems → Read SetItems
  | 0, items => return items
  | fuel + 1, items => do
    if (← expect .unclosedClass) ≠ '-' then return items
    advanceSpaced
    leadingDashes fuel (items.add (.single '-') 0)

/-- Opens a bracket: whether what is outside it is meant, and the items that can stand only at its
start. At most `fuel` characters are left. -/
def openBracket (fuel : Nat) : Read (Bool × SetItems) := do
  advanceSpaced
  let negated := (← expect .unclosedClass) = '^'
  if negated then advanceSpaced
  let dashes ← leadingDashes fuel {}
  if dashes.count = 0 && (← expect .unclosedClass) = ']' then
    advanceSpaced
    return (negated, dashes.add (.single ']') 0)
  return (negated, dashes)

/-- The items of a set up to the bracket that closes the outermost one. Each is behind the one
before it, so there are no more than `fuel`. -/
def setItems : (fuel : Nat) → List OpenSet → SetItems → Read (Nested CharSet)
  | 0, _, _ => throw .unclosedClass
  | fuel + 1, stack, items => do
    skipSpace
    match ← expect .unclosedClass with
    | '[' =>
      match ← asciiSet? with
      | some s => setItems fuel stack (items.add s 0)
      | none =>
        let (negated, inside) ← openBracket fuel
        setItems fuel (.bracket items negated :: stack) inside
    | ']' =>
      let (inside, outer) ← applyOperation (← gather items) stack
      match outer with
      | .bracket before negated :: rest =>
        advance 1
        let closed ← enclose (← foldAndNegate negated inside.value) inside.levels
        if rest.isEmpty then return closed
        setItems fuel rest (before.add closed.value closed.levels)
      | _ => throw .unclosedClass
    | _ =>
      match ← setOperation? with
      | some kind =>
        let (left, outer) ← applyOperation (← gather items) stack
        setItems fuel (.operation kind left :: outer) {}
      | none =>
        let s ← setRange
        setItems fuel stack (items.add s 0)

/-- A set in brackets, where at most `fuel` characters are left. -/
def bracket (fuel : Nat) : Read (Nested CharSet) := do
  let (negated, inside) ← openBracket fuel
  setItems fuel [.bracket {} negated] inside

end Read

end StylesheetAssets.Pattern
