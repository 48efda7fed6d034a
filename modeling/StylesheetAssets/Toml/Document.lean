import StylesheetAssets.Toml.Scalar

/-!
Whole documents, from their text to the table they describe.
-/
namespace StylesheetAssets.Toml

def require {α : Type} : Option α → Except Error α
  | some a => .ok a
  | none => .error .unexpected

/-- The text behind a comment: no control character stands in it. -/
def dropComment (s : List Char) : Except Error (List Char) :=
  match s with
  | '#' :: rest =>
    let after := rest.dropWhile isVisible
    if after.isEmpty || (newline? after).isSome then .ok after else .error .unexpected
  | s => .ok s

/-- Skips space, lines and comments inside an array. -/
def skipLines : (fuel : Nat) → List Char → Except Error (List Char)
  | 0, s => .ok s
  | fuel + 1, s =>
    let s := skipSpace s
    match newline? s with
    | some rest => skipLines fuel rest
    | none =>
      match s with
      | '#' :: _ => do
        match newline? (← dropComment s) with
        | some rest => skipLines fuel rest
        | none => .error .unexpected
      | s => .ok s

/-- Adds a key to a table in braces. -/
def insertInline (value : Value) : List String → List (String × Value) →
    Except Error (List (String × Value))
  | [], _ => .error .unexpected
  | [key], entries =>
    if entries.any (·.1 = key) then .error (.duplicateKey key) else .ok (entries ++ [(key, value)])
  | key :: path, entries =>
    match entries.lookup key with
    | none => do
      let inner ← insertInline value path []
      return entries ++ [(key, .inlineTable true inner)]
    | some (.inlineTable true inner) => do
      let inner ← insertInline value path inner
      return entries.map fun e => if e.1 = key then (key, .inlineTable true inner) else e
    | some (.inlineTable false _) => .error (.duplicateKey key)
    | some _ => .error (.notATable key)

mutual

/-- A value of any kind. `depth` is one more than the number of levels that may follow. -/
def readValue : (fuel depth : Nat) → List Char → Except Error (Value × List Char)
  | 0, _, _ => .error .unexpected
  | fuel + 1, depth, s =>
    match s with
    | '[' :: rest => do
      if depth ≤ 1 then throw .unexpected
      let (elements, rest) ← readElements fuel (depth - 1) rest
      return (.array elements, rest)
    | '\x7b' :: rest => do
      if depth ≤ 1 then throw .unexpected
      match skipSpace rest with
      | '\x7d' :: rest => return (.inlineTable false [], rest)
      | rest =>
        let (entries, rest) ← readPairs fuel (depth - 1) [] rest
        return (.inlineTable false entries, rest)
    | s => require (readScalar s)

def readElements : (fuel depth : Nat) → List Char → Except Error (List Value × List Char)
  | 0, _, _ => .error .unexpected
  | fuel + 1, depth, s => do
    match ← skipLines s.length s with
    | ']' :: rest => return ([], rest)
    | s =>
      let (value, rest) ← readValue fuel depth s
      match ← skipLines rest.length rest with
      | ',' :: rest =>
        let (values, rest) ← readElements fuel depth rest
        return (value :: values, rest)
      | ']' :: rest => return ([value], rest)
      | _ => throw .unexpected

/-- The pairs of a table in braces, with its closing brace. -/
def readPairs : (fuel depth : Nat) → List (String × Value) → List Char →
    Except Error (List (String × Value) × List Char)
  | 0, _, _, _ => .error .unexpected
  | fuel + 1, depth, entries, s => do
    match ← require (readKey s) with
    | (path, '=' :: rest) =>
      let (value, rest) ← readValue fuel depth (skipSpace rest)
      let entries ← insertInline value path entries
      match skipSpace rest with
      | ',' :: rest => readPairs fuel depth entries rest
      | '\x7d' :: rest => return (entries, rest)
      | _ => throw .unexpected
    | _ => throw .unexpected

end

/-- A document that has been read in part: the finished tables, and the one that keys go into. -/
structure Builder where
  root : Table := {}
  current : Table := {}
  /-- Where the current table belongs; empty for the root itself. -/
  path : List String := []
  /-- Whether the current table is one of several under its path. -/
  inArray : Bool := false

namespace Builder

/-- Puts the current table into its place. -/
def close (b : Builder) : Except Error Table :=
  match b.path.getLast? with
  | none => .ok b.current
  | some key => do
    let place (parent : Table) : Except Error (Unit × Table) :=
      if b.inArray then
        match parent.get? key with
        | none => .ok ((), parent.set key (.tables [b.current.entries]))
        | some (.tables elements) =>
          .ok ((), parent.set key (.tables (elements ++ [b.current.entries])))
        | some _ => .error (.duplicateKey key)
      else
        match parent.get? key with
        | none => .ok ((), parent.set key b.current.toItem)
        | some _ => .error (.duplicateKey key)
    let (_, root) ← Table.descend false place b.path.dropLast b.root
    return root

/-- Starts the table of a header. One that was named only on the way is completed. -/
def openTable (b : Builder) (path : List String) : Except Error Builder := do
  let root ← b.close
  let key := path.getLastD ""
  let take (parent : Table) : Except Error (List (String × Item) × Table) :=
    match parent.get? key with
    | none => .ok ([], parent)
    | some (.table true false entries) => .ok (entries, parent.erase key)
    | some _ => .error (.duplicateKey key)
  let (entries, root) ← Table.descend false take path.dropLast root
  return { root, current := { entries }, path }

def openElement (b : Builder) (path : List String) : Except Error Builder := do
  let root ← b.close
  let key := path.getLastD ""
  let reserve (parent : Table) : Except Error (Unit × Table) :=
    match parent.get? key with
    | none => .ok ((), parent.set key (.tables []))
    | some (.tables _) => .ok ((), parent)
    | some _ => .error (.duplicateKey key)
  let (_, root) ← Table.descend false reserve path.dropLast root
  return { root, path, inArray := true }

/-- Sets a key of the current table. -/
def insert (b : Builder) (path : List String) (value : Value) : Except Error Builder := do
  let key := path.getLastD ""
  let into := path.dropLast
  let place (t : Table) : Except Error (Unit × Table) :=
    if t.dotted = into.isEmpty || (t.get? key).isSome then .error (.duplicateKey key)
    else .ok ((), t.set key (.value value))
  let (_, current) ← Table.descend true place into b.current
  return { b with current }

end Builder

/-- The end of a line: space, a comment, and a newline or the end of the text. -/
def readLineEnd (s : List Char) : Except Error (List Char) := do
  match ← dropComment (skipSpace s) with
  | [] => return []
  | s => require (newline? s)

def readHeader (b : Builder) (s : List Char) : Except Error (Builder × List Char) := do
  match s with
  | '[' :: '[' :: rest =>
    match ← require (readKey rest) with
    | (path, ']' :: ']' :: rest) =>
      let rest ← readLineEnd rest
      return (← b.openElement path, rest)
    | _ => throw .unexpected
  | '[' :: rest =>
    match ← require (readKey rest) with
    | (path, ']' :: rest) =>
      let rest ← readLineEnd rest
      return (← b.openTable path, rest)
    | _ => throw .unexpected
  | _ => throw .unexpected

def readLines : (fuel : Nat) → Builder → List Char → Except Error Table
  | 0, _, _ => .error .unexpected
  | fuel + 1, b, s =>
    match skipSpace s with
    | [] => b.close
    | '#' :: rest => do readLines fuel b (← dropComment ('#' :: rest))
    | '[' :: rest => do
      let (b, rest) ← readHeader b ('[' :: rest)
      readLines fuel b rest
    | c :: rest =>
      match newline? (c :: rest) with
      | some rest => readLines fuel b rest
      | none => do
        match ← require (readKey (c :: rest)) with
        | (path, '=' :: rest) =>
          let rest := skipSpace rest
          let (value, rest) ← readValue (2 * rest.length + 2) depthLimit rest
          let rest ← readLineEnd rest
          readLines fuel (← b.insert path value) rest
        | _ => throw .unexpected

/-- The table that a text describes. A byte order mark in front of it is skipped. -/
def parse (text : String) : Except Error Table :=
  let s := text.toList
  let s := (Text.stripStart? ['\ufeff'] s).getD s
  readLines (s.length + 1) {} s

end StylesheetAssets.Toml
