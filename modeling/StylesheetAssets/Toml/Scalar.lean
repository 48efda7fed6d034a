import StylesheetAssets.Text
import StylesheetAssets.Toml.Value

/-!
Strings, numbers, dates and keys of TOML.

Each reader takes what it reads from the start of a text and answers the rest.
-/
namespace StylesheetAssets.Toml

open Text (hexValue? readHex)

abbrev Reader (α : Type) := List Char → Option (α × List Char)

def isSpace (c : Char) : Bool := c == ' ' || c == '\t'

def skipSpace (s : List Char) : List Char := s.dropWhile isSpace

/-- A character that may stand in a comment or a literal string: no control but the tab. -/
def isVisible (c : Char) : Bool := c == '\t' || (' ' ≤ c && c ≠ '\x7f')

def newline? : List Char → Option (List Char)
  | '\n' :: rest => some rest
  | '\r' :: '\n' :: rest => some rest
  | _ => none

/-- The character of an escape that is given by its code point. -/
def scalar? (digits : List Char) : Option Char :=
  let n := readHex digits
  if digits.any (fun c => (hexValue? c).isNone) then none
  else if n < 0xd800 ∨ (0xdfff < n ∧ n < 0x110000) then some (Char.ofNat n)
  else none

def readEscape : Reader Char
  | 'b' :: rest => some ('\x08', rest)
  | 't' :: rest => some ('\t', rest)
  | 'n' :: rest => some ('\n', rest)
  | 'f' :: rest => some ('\x0c', rest)
  | 'r' :: rest => some ('\r', rest)
  | '"' :: rest => some ('"', rest)
  | '\\' :: rest => some ('\\', rest)
  | 'u' :: rest =>
    if rest.length < 4 then none else (scalar? (rest.take 4)).map (·, rest.drop 4)
  | 'U' :: rest =>
    if rest.length < 8 then none else (scalar? (rest.take 8)).map (·, rest.drop 8)
  | _ => none

/-- The inside of a string in double quotes, with its closing quote. -/
def readBasic : (fuel : Nat) → Reader (List Char)
  | 0, _ => none
  | _, [] => none
  | _ + 1, '"' :: rest => some ([], rest)
  | fuel + 1, '\\' :: rest => do
    let (c, rest) ← readEscape rest
    let (cs, rest) ← readBasic fuel rest
    return (c :: cs, rest)
  | fuel + 1, c :: rest => do
    guard (isVisible c)
    let (cs, rest) ← readBasic fuel rest
    return (c :: cs, rest)

/-- The inside of a string in single quotes, with its closing quote. -/
def readLiteral (s : List Char) : Option (List Char × List Char) :=
  match Text.splitAt (· == '\'') s with
  | (inside, _ :: rest) => if inside.all isVisible then some (inside, rest) else none
  | _ => none

/-- The end of a string between threefold quotes: up to two more of them belong to the string. -/
def readTripleEnd (q : Char) : Reader (List Char)
  | a :: b :: c :: rest =>
    if a = q ∧ b = q ∧ c = q then
      let extra := (rest.take 2).takeWhile (· = q)
      some (extra, rest.drop extra.length)
    else none
  | _ => none

/-- The inside of a string between threefold double quotes. A backslash before the end of a line
takes all white space behind it away. -/
def readBasicLines : (fuel : Nat) → Reader (List Char)
  | 0, _ => none
  | fuel + 1, s =>
    match readTripleEnd '"' s with
    | some found => some found
    | none =>
      match s with
      | '\\' :: rest =>
        match newline? (skipSpace rest) with
        | some after => readBasicLines fuel (dropBlankLines after.length after)
        | none => do
          let (c, rest) ← readEscape rest
          let (cs, rest) ← readBasicLines fuel rest
          return (c :: cs, rest)
      | s => do
        let (c, rest) ← readLineChar s
        let (cs, rest) ← readBasicLines fuel rest
        return (c :: cs, rest)
where
  dropBlankLines : Nat → List Char → List Char
    | 0, s => s
    | fuel + 1, s =>
      match newline? (skipSpace s) with
      | some rest => dropBlankLines fuel rest
      | none => skipSpace s
  readLineChar (s : List Char) : Option (Char × List Char) :=
    match newline? s, s with
    | some rest, _ => some ('\n', rest)
    | none, c :: rest => if isVisible c then some (c, rest) else none
    | none, [] => none

/-- The inside of a string between threefold single quotes. -/
def readLiteralLines : (fuel : Nat) → Reader (List Char)
  | 0, _ => none
  | fuel + 1, s =>
    match readTripleEnd '\'' s with
    | some found => some found
    | none => do
      let (c, rest) ← readBasicLines.readLineChar s
      let (cs, rest) ← readLiteralLines fuel rest
      return (c :: cs, rest)

/-- The text behind a newline that directly follows opening quotes. -/
def dropFirstNewline (s : List Char) : List Char := (newline? s).getD s

def readString (s : List Char) : Option (String × List Char) :=
  let fuel := s.length + 1
  let read :=
    match s with
    | '"' :: '"' :: '"' :: rest => readBasicLines fuel (dropFirstNewline rest)
    | '\'' :: '\'' :: '\'' :: rest => readLiteralLines fuel (dropFirstNewline rest)
    | '"' :: rest => readBasic fuel rest
    | '\'' :: rest => readLiteral rest
    | _ => none
  read.map fun (cs, rest) => (String.ofList cs, rest)

/-- A number of exactly so many digits. -/
def readDigits (count : Nat) (s : List Char) : Option (Nat × List Char) :=
  let digits := s.take count
  if digits.length = count ∧ digits.all Char.isDigit then
    some (digits.foldl (fun n c => 10 * n + (c.toNat - 48)) 0, s.drop count)
  else none

def daysOfMonth (year month : Nat) : Nat :=
  if month = 2 then
    if (year % 4 = 0 ∧ year % 100 ≠ 0) ∨ year % 400 = 0 then 29 else 28
  else if month = 4 ∨ month = 6 ∨ month = 9 ∨ month = 11 then 30
  else 31

def readDate (s : List Char) : Option (List Char) := do
  let (year, s) ← readDigits 4 s
  let s ← Text.stripStart? ['-'] s
  let (month, s) ← readDigits 2 s
  let s ← Text.stripStart? ['-'] s
  let (day, s) ← readDigits 2 s
  guard (1 ≤ month ∧ month ≤ 12 ∧ 1 ≤ day ∧ day ≤ daysOfMonth year month)
  return s

def readTime (s : List Char) : Option (List Char) := do
  let (hour, s) ← readDigits 2 s
  let s ← Text.stripStart? [':'] s
  let (minute, s) ← readDigits 2 s
  let s ← Text.stripStart? [':'] s
  let (second, s) ← readDigits 2 s
  guard (hour ≤ 23 ∧ minute ≤ 59 ∧ second ≤ 60)
  match s with
  | '.' :: fraction =>
    guard (fraction.head?.any Char.isDigit)
    return fraction.dropWhile Char.isDigit
  | s => return s

/-- The distance from universal time, if one is given. -/
def dropOffset (s : List Char) : Option (List Char) :=
  match s with
  | 'Z' :: rest => some rest
  | 'z' :: rest => some rest
  | c :: rest =>
    if c = '+' ∨ c = '-' then do
      let (hour, rest) ← readDigits 2 rest
      let rest ← Text.stripStart? [':'] rest
      let (minute, rest) ← readDigits 2 rest
      guard (hour ≤ 23 ∧ minute ≤ 59)
      return rest
    else some s
  | [] => some s

def readDateTime (s : List Char) : Option (Value × List Char) :=
  match readDate s with
  | some afterDate =>
    match afterDate with
    | c :: rest =>
      if c = 'T' ∨ c = 't' ∨ c = ' ' then
        match readTime rest with
        | some afterTime => (dropOffset afterTime).map (.dateTime, ·)
        | none => some (.dateTime, afterDate)
      else some (.dateTime, afterDate)
    | [] => some (.dateTime, afterDate)
  | none => (readTime s).map (.dateTime, ·)

/-- Digits with single underscores between them. -/
def readRun (isDigit : Char → Bool) : Reader (List Char)
  | [] => none
  | c :: rest => if isDigit c then (more rest).map fun (cs, rest) => (c :: cs, rest) else none
where
  more : Reader (List Char)
    | [] => some ([], [])
    | '_' :: c :: rest =>
      if isDigit c then (more rest).map fun (cs, rest) => (c :: cs, rest) else none
    | c :: rest =>
      if isDigit c then (more rest).map fun (cs, rest) => (c :: cs, rest)
      else if c = '_' then none
      else some ([], c :: rest)

/-- A sign, if there is one: whether it is a minus. -/
def readSign : List Char → Bool × List Char
  | '-' :: rest => (true, rest)
  | '+' :: rest => (false, rest)
  | s => (false, s)

def decimalValue (digits : List Char) : Nat := digits.foldl (fun n c => 10 * n + (c.toNat - 48)) 0

def readDecimal (s : List Char) : Option (List Char × List Char) :=
  match s with
  | '0' :: rest => some (['0'], rest)
  | s => readRun Char.isDigit s

def readExponent (s : List Char) : Option (Option Int × List Char) :=
  match s with
  | e :: rest =>
    if e = 'e' ∨ e = 'E' then do
      let (negative, rest) := readSign rest
      let (digits, rest) ← readRun Char.isDigit rest
      let n := (decimalValue digits : Int)
      return (some (if negative then -n else n), rest)
    else some (none, s)
  | [] => some (none, s)

/-- Whether `mantissa * 10 ^ exponent` is beyond the largest double, halves rounding up. -/
def exceedsDouble (mantissa : Nat) (exponent : Int) : Bool :=
  let bound := (Nat.pow 2 54 - 1) * Nat.pow 2 970
  let power := Nat.pow 10 exponent.natAbs
  let magnitude := (Nat.toDigits 10 mantissa).length + exponent
  if mantissa = 0 ∨ magnitude < 300 then false
  else if 320 < magnitude then true
  else if exponent < 0 then bound * power ≤ mantissa
  else bound ≤ mantissa * power

/-- A number with a fraction or an exponent, or one of the special ones. -/
def readFloat (s : List Char) : Option (Value × List Char) :=
  let (negative, digits) := readSign s
  match Text.stripStart? "inf".toList digits, Text.stripStart? "nan".toList digits with
  | some rest, _ => some (.float, rest)
  | _, some rest => some (.float, rest)
  | none, none => do
    let (whole, rest) ← readDecimal digits
    let (fraction, rest) ←
      match rest with
      | '.' :: rest => readRun Char.isDigit rest
      | rest => some ([], rest)
    let (exponent, rest) ← readExponent rest
    guard (!fraction.isEmpty || exponent.isSome)
    guard (negative ||
      !exceedsDouble (decimalValue (whole ++ fraction)) (exponent.getD 0 - fraction.length))
    return (.float, rest)

/-- Digits in the base that a prefix names. -/
def readBased : List Char → Option (Nat × List Char)
  | '0' :: 'x' :: rest => (readRun (fun c => (hexValue? c).isSome) rest).map fun (ds, rest) =>
    (readHex ds, rest)
  | '0' :: 'o' :: rest => (readRun (fun c => '0' ≤ c && c ≤ '7') rest).map fun (ds, rest) =>
    (ds.foldl (fun n c => 8 * n + (c.toNat - 48)) 0, rest)
  | '0' :: 'b' :: rest => (readRun (fun c => c == '0' || c == '1') rest).map fun (ds, rest) =>
    (ds.foldl (fun n c => 2 * n + (c.toNat - 48)) 0, rest)
  | _ => none

def readInteger (s : List Char) : Option (Value × List Char) := do
  let (n, rest) ←
    match readBased s with
    | some (n, rest) => some ((n : Int), rest)
    | none => do
      let (negative, digits) := readSign s
      let (digits, rest) ← readDecimal digits
      let n := (decimalValue digits : Int)
      some (if negative then -n else n, rest)
  guard (-0x8000000000000000 ≤ n ∧ n < 0x8000000000000000)
  return (.integer n, rest)

/-- A value that is no array and no table. -/
def readScalar (s : List Char) : Option (Value × List Char) :=
  match s with
  | [] => none
  | c :: _ =>
    if c = '"' ∨ c = '\'' then (readString s).map fun (text, rest) => (.string text, rest)
    else if c = '+' ∨ c = '-' ∨ c.isDigit ∨ c = 'i' ∨ c = 'n' then
      (readDateTime s).or ((readFloat s).or (readInteger s))
    else
      match Text.stripStart? "true".toList s, Text.stripStart? "false".toList s with
      | some rest, _ => some (.boolean true, rest)
      | none, some rest => some (.boolean false, rest)
      | none, none => none

def isBareKeyChar (c : Char) : Bool := c.isAlphanum || c == '-' || c == '_'

def readKeyPart (s : List Char) : Option (String × List Char) :=
  match s with
  | '"' :: rest => (readBasic s.length rest).map fun (cs, rest) => (String.ofList cs, rest)
  | '\'' :: rest => (readLiteral rest).map fun (cs, rest) => (String.ofList cs, rest)
  | s =>
    match s.takeWhile isBareKeyChar with
    | [] => none
    | cs => some (String.ofList cs, s.dropWhile isBareKeyChar)

/-- Keys have fewer parts than this, and values nest less deeply. -/
def depthLimit : Nat := 80

/-- The parts of a dotted key, and the space behind it. -/
def readKey (s : List Char) : Option (List String × List Char) :=
  go depthLimit s
where
  go : (fuel : Nat) → Reader (List String)
    | 0, _ => none
    | fuel + 1, s => do
      let (part, rest) ← readKeyPart (skipSpace s)
      match skipSpace rest with
      | '.' :: rest =>
        let (parts, rest) ← go fuel rest
        return (part :: parts, rest)
      | rest => return ([part], rest)

end StylesheetAssets.Toml
