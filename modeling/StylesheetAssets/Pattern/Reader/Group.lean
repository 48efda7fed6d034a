import StylesheetAssets.Pattern.Reader.State
import StylesheetAssets.Unicode.Property

/-!
What opens a group: its name or its flags; and the counts of repetitions.
-/
namespace StylesheetAssets.Pattern

namespace Read

/-- Passes over white space, whether it means something or not. -/
def dropBlanks : Read Unit :=
  modify fun s => { s with rest := s.rest.dropWhile Text.isBlank }

/-- One or more digits, with white space around them, below 2^32. -/
def decimal : Read Nat := do
  dropBlanks
  let digits ← takeSpaced Char.isDigit
  let _ ← takeSpaced Text.isBlank
  let value := digits.foldl (fun n c => 10 * n + (c.toNat - 48)) 0
  if digits.isEmpty || 0x100000000 ≤ value then throw .badCount
  return value

/-- The bounds of a counted repetition, from its opening brace on and up to the closing one. -/
def bounds : Read (Nat × Option Nat) := do
  advanceSpaced
  let _ ← expect .badCount
  let least ← decimal
  let most ←
    if (← expect .badCount) = ',' then do
      advanceSpaced
      if (← expect .badCount) = '\x7d' then pure none else some <$> decimal
    else pure (some least)
  if (← expect .badCount) ≠ '\x7d' then throw .badCount
  if most.any (· < least) then throw .badCount
  return (least, most)

/-- Whether the mark that prefers few repetitions comes next, which is passed over. -/
def prefersFew : Read Bool := do
  if (← peek) = some '?' then
    advance 1
    return true
  return false

/-- Whether a character may stand in the name of a group. -/
def isNameChar (first : Bool) (c : Char) : Bool :=
  c = '_' ||
    if first then Unicode.nameStart.contains c
    else c = '.' || c = '[' || c = ']' || Unicode.nameContinue.contains c

/-- The name of a group, up to and with its closing angle. -/
def groupName : Read Unit := do
  let name := (← get).rest.takeWhile (· ≠ '>')
  advance name.length
  let _ ← expect .badGroupName
  advance 1
  match name with
  | [] => throw .badGroupName
  | c :: rest =>
    if !isNameChar true c || !rest.all (isNameChar false) then throw .badGroupName
    if (← get).groupNames.contains name then throw .badGroupName
    modify fun s => { s with groupNames := name :: s.groupNames }

def setFlag (c : Char) (on : Bool) (f : Flags) : Read Flags :=
  match c with
  | 'i' => return { f with insensitive := on }
  | 'm' => return { f with multiLine := on }
  | 's' => return { f with dotAll := on }
  | 'U' => return { f with swapGreed := on }
  | 'u' => return { f with unicode := on }
  | 'R' => return { f with crlf := on }
  | 'x' => return { f with spaced := on }
  | _ => throw .badFlags

/-- Flags as text: those in front of the dash are switched on, those behind it off. -/
def applyFlags (on : Bool) : List Char → Flags → Read Flags
  | [], f => return f
  | '-' :: rest, f => do
    if !on || rest.isEmpty then throw .badFlags
    applyFlags false rest f
  | c :: rest, f => do
    if rest.contains c then throw .badFlags
    applyFlags on rest (← setFlag c on f)

/-- Whether look-around stands behind an opening parenthesis. -/
def atLookAround : Read Bool := do
  let rest := (← get).rest
  return ["?=", "?!", "?<=", "?<!"].any fun mark => mark.toList.isPrefixOf rest

/-- The number of a group that is opened. -/
def nextNumber : Read Nat := do
  modify fun s => { s with groups := s.groups + 1 }
  return (← get).groups

inductive Opening where
  /-- A group, with its number if it has one, and the flags in it. -/
  | group (number : Option Nat) (inside : Flags)
  /-- Flags for what follows, without a group. -/
  | flags (behind : Flags)

/-- What stands behind an opening parenthesis. -/
def opening : Read Opening := do
  let f ← flags
  if ← atLookAround then throw .lookAround
  if (← accept "?P<") || (← accept "?<") then
    let number ← nextNumber
    groupName
    return .group (some number) f
  if ← accept "?" then
    let text := (← get).rest.takeWhile fun c => c ≠ ':' && c ≠ ')'
    advance text.length
    let closing ← expect .unclosedGroup
    advance 1
    let changed ← applyFlags true text f
    if closing = ':' then return .group none changed
    if text.isEmpty then throw .missingOperand
    return .flags changed
  return .group (some (← nextNumber)) f

end Read

end StylesheetAssets.Pattern
