import StylesheetAssets.Pattern.Match
import StylesheetAssets.Pattern.Reader.State
import StylesheetAssets.Unicode.Case

/-!
Escapes: characters by their numbers, classes, properties and assertions behind a backslash.
-/
namespace StylesheetAssets.Pattern

open Unicode (CharSet)

inductive Escaped where
  /-- A character; `byte` if it is given by two digits, as a byte is. -/
  | literal (c : Char) (byte : Bool)
  | set (s : CharSet)
  | assertion (a : Assertion)

namespace Read

/-- A set without its case, if case does not matter. -/
def fold (s : CharSet) : Read CharSet := do
  let f ← flags
  if !f.insensitive then return s
  return if f.unicode then s.closedUnderCase else s.closedUnderAsciiCase

/-- The characters outside a set; without Unicode these may not be named. -/
def negate (negated : Bool) (s : CharSet) : Read CharSet := do
  if !negated then return s
  if !(← flags).unicode then throw .notAscii
  return s.complement

/-- A set without its case, or what is outside it. -/
def foldAndNegate (negated : Bool) (s : CharSet) : Read CharSet := do
  negate negated (← fold s)

/-- The character of a code point in hex digits. -/
def scalar (digits : List Char) : Read Char :=
  let n := Text.readHex digits
  if n < 0xd800 ∨ (0xdfff < n ∧ n < 0x110000) then return Char.ofNat n else throw .badEscape

def hexDigit (e : ReadError) : Read Char := do
  let c ← expect e
  if (Text.hexValue? c).isNone then throw e
  return c

/-- Exactly so many hex digits. -/
def hexDigits : Nat → Read (List Char)
  | 0 => return []
  | n + 1 => do
    let c ← hexDigit .badEscape
    advanceSpaced
    return c :: (← hexDigits n)

/-- What stands in braces, from the opening one on and up to the closing one. -/
def braced : Read (List Char) := do
  advanceSpaced
  let inside ← takeSpaced (· ≠ '\x7d')
  let _ ← expect .badEscape
  return inside

/-- A character by its number: hex digits in braces, or exactly so many of them. -/
def numbered (digits : Nat) : Read Escaped := do
  advanceSpaced
  if (← expect .badEscape) = '\x7b' then
    let inside ← braced
    advanceSpaced
    if inside.isEmpty || inside.any fun c => (Text.hexValue? c).isNone then throw .badEscape
    return .literal (← scalar inside) false
  else return .literal (← scalar (← hexDigits digits)) (digits = 2)

/-- The name of a property as it is looked up: in lower case, without separators and without a
leading `is`. The name `isc` is not that of the category `c`. -/
def plainName (name : List Char) : String :=
  let keep (name : List Char) : String :=
    String.ofList ((name.filter fun c => c ≠ ' ' && c ≠ '_' && c ≠ '-' && c.toNat < 128).map
      Char.toLower)
  match name with
  | i :: s :: rest =>
    if i.toLower = 'i' ∧ s.toLower = 's' ∧ keep rest ≠ "c" then keep rest else keep name
  | _ => keep name

/-- A text cut at the first place where another one stands. -/
def cutAt? (mark : List Char) : List Char → Option (List Char × List Char)
  | [] => none
  | c :: rest =>
    if mark.isPrefixOf (c :: rest) then some ([], (c :: rest).drop mark.length)
    else (cutAt? mark rest).map fun (before, behind) => (c :: before, behind)

/-- The set that the text between the braces of a property escape names, and whether what is
outside it is meant. -/
def propertySet? (text : List Char) : Option (CharSet × Bool) :=
  let valued (parts : List Char × List Char) (negated : Bool) : Option (CharSet × Bool) :=
    (Unicode.propertyValue? (plainName parts.1) (plainName parts.2)).map (·, negated)
  match cutAt? ['!', '='] text, cutAt? [':'] text, cutAt? ['='] text with
  | some parts, _, _ => valued parts true
  | none, some parts, _ => valued parts false
  | none, none, some parts => valued parts false
  | none, none, none => (Unicode.property? (plainName text)).map (·, false)

/-- A property escape, from its letter on. -/
def property (negated : Bool) : Read CharSet := do
  advanceSpaced
  let first ← expect .badEscape
  let text ←
    if first = '\x7b' then do
      let inside ← braced
      advance 1
      pure inside
    else if first = '\\' then throw .unknownProperty
    else do
      advanceSpaced
      pure [first]
  if !(← flags).unicode then throw .notAscii
  match propertySet? text with
  | some (set, outside) => foldAndNegate (negated != outside) set
  | none => throw .unknownProperty

/-- Digits of every script, or of ASCII. -/
def digitSet (unicode : Bool) : CharSet :=
  if unicode then Unicode.digits else .ofTable ["30-39"]

/-- White space, or that of ASCII with the vertical tab. -/
def spaceSet (unicode : Bool) : CharSet :=
  if unicode then Unicode.whiteSpace else .ofTable ["9-D 20"]

/-- Characters with a meaning of their own. -/
def isMeta (c : Char) : Bool := "\\.+*?()|[]\x7b\x7d^$#&-~".toList.contains c

/-- Characters that an escape may stand in front of without changing them. -/
def isEscapable (c : Char) : Bool :=
  isMeta c || (c.toNat < 128 && !c.isAlphanum && c ≠ '<' && c ≠ '>')

/-- The boundary named in braces behind `\b`, if something like a name stands there. -/
def namedBoundary? : Read (Option Assertion) := do
  let before ← get
  advanceSpaced
  let isNameChar (c : Char) : Bool := c.isAlpha || c == '-'
  if !isNameChar (← expect .unknownBoundary) then
    set before
    return none
  let name ← takeSpaced isNameChar
  if (← expect .unknownBoundary) ≠ '\x7d' then throw .unknownBoundary
  advance 1
  let u := (← flags).unicode
  match String.ofList name with
  | "start" => return some (.wordStart u)
  | "end" => return some (.wordEnd u)
  | "start-half" => return some (.wordStartHalf u)
  | "end-half" => return some (.wordEndHalf u)
  | _ => throw .unknownBoundary

/-- The characters that a letter behind a backslash stands for. -/
def controlChar? (c : Char) : Option Char :=
  match c with
  | 'a' => some '\x07'
  | 'f' => some '\x0c'
  | 't' => some '\t'
  | 'n' => some '\n'
  | 'r' => some '\r'
  | 'v' => some '\x0b'
  | _ => none

/-- An escape, from its backslash on. -/
def escape : Read Escaped := do
  advance 1
  let c ← expect .badEscape
  let u := (← flags).unicode
  let known (negated : Bool) (s : CharSet) : Read Escaped := do
    advance 1
    return .set (← negate negated s)
  if c.isDigit then throw .backReference
  match c with
  | 'x' => numbered 2
  | 'u' => numbered 4
  | 'U' => numbered 8
  | 'p' => return .set (← property false)
  | 'P' => return .set (← property true)
  | 'd' => known false (digitSet u)
  | 's' => known false (spaceSet u)
  | 'w' => known false (wordSet u)
  | 'D' => known true (digitSet u)
  | 'S' => known true (spaceSet u)
  | 'W' => known true (wordSet u)
  | _ =>
    advance 1
    if isEscapable c then return .literal c false
    if let some control := controlChar? c then return .literal control false
    match c with
    | 'A' => return .assertion .textStart
    | 'z' => return .assertion .textEnd
    | 'b' =>
      let named ← if (← peek) = some '\x7b' then namedBoundary? else pure none
      return .assertion (named.getD (.wordBoundary u))
    | 'B' => return .assertion (.noWordBoundary u)
    | '<' => return .assertion (.wordStart u)
    | '>' => return .assertion (.wordEnd u)
    | _ => throw .badEscape

end Read

end StylesheetAssets.Pattern
