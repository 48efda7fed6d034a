import StylesheetAssets.Text

/-!
The tokens of a stylesheet: comments, heads of blocks, statements, and closing braces.

Strings, comments and parenthesised groups are opaque: the `;` in `url(data:image/png;base64,…)`
ends no statement. Nothing is an error. What is unterminated ends with the text.
-/
namespace StylesheetAssets.Stylesheet

/-- The inside of a comment, and what follows its `*/` unless it is unterminated. -/
def splitComment : List Char → List Char × Option (List Char)
  | '*' :: '/' :: rest => ([], some rest)
  | [] => ([], none)
  | c :: rest =>
    let (body, after) := splitComment rest
    (c :: body, after)

theorem length_of_splitComment {s rest : List Char} (h : (splitComment s).2 = some rest) :
    rest.length < s.length := by
  fun_induction splitComment s with
  | case1 r =>
    simp only [Option.some.injEq] at h
    subst h
    simp only [List.length_cons]
    omega
  | case2 => simp at h
  | case3 c r _ body after hr ih =>
    rw [hr] at ih
    have := ih h
    simp only [List.length_cons]
    omega

/-- Where a scan of a head stands. -/
inductive HeadMode where
  | plain
  /-- After a backslash: the next character means nothing. -/
  | escape
  /-- After a slash, which may turn out to open a comment. -/
  | slash
  | string (quote : Char)
  | stringEscape (quote : Char)
  | comment
  /-- In a comment, after a star. -/
  | star
deriving DecidableEq, Repr

/-- The state of a scan: the mode, and the number of open parentheses. -/
structure HeadState where
  mode : HeadMode := .plain
  depth : Nat := 0
deriving DecidableEq, Repr

namespace HeadState

def stepPlain (depth : Nat) (c : Char) : HeadState :=
  if c = '"' ∨ c = '\'' then ⟨.string c, depth⟩
  else if c = '\\' then ⟨.escape, depth⟩
  else if c = '/' then ⟨.slash, depth⟩
  else if c = '(' then ⟨.plain, depth + 1⟩
  else if c = ')' then ⟨.plain, depth - 1⟩
  else ⟨.plain, depth⟩

/-- The state after one more character. -/
def step (s : HeadState) (c : Char) : HeadState :=
  match s.mode with
  | .plain => stepPlain s.depth c
  | .escape => ⟨.plain, s.depth⟩
  | .slash => if c = '*' then ⟨.comment, s.depth⟩ else stepPlain s.depth c
  | .string q =>
    if c = '\\' then ⟨.stringEscape q, s.depth⟩ else if c = q then ⟨.plain, s.depth⟩ else s
  | .stringEscape q => ⟨.string q, s.depth⟩
  | .comment => if c = '*' then ⟨.star, s.depth⟩ else s
  | .star =>
    if c = '/' then ⟨.plain, s.depth⟩ else if c = '*' then s else ⟨.comment, s.depth⟩

/-- A brace or a semicolon ends the head unless something opaque is open. -/
def stops (s : HeadState) (c : Char) : Bool :=
  (s.mode = .plain || s.mode = .slash) && s.depth = 0 && (c = '{' || c = ';' || c = '}')

end HeadState

/-- The characters up to the first one at which the scan stops, and the rest from there on. -/
def splitHead (s : HeadState) : List Char → List Char × List Char
  | [] => ([], [])
  | c :: rest =>
    if s.stops c then ([], c :: rest)
    else
      let (head, after) := splitHead (s.step c) rest
      (c :: head, after)

/-- Nothing is lost between the head and the rest. -/
theorem splitHead_append (s : HeadState) (cs : List Char) :
    (splitHead s cs).1 ++ (splitHead s cs).2 = cs := by
  induction cs generalizing s with
  | nil => rfl
  | cons c rest ih =>
    unfold splitHead
    split
    · rfl
    · simp [ih]

theorem length_of_splitHead (s : HeadState) (cs : List Char) :
    (splitHead s cs).2.length ≤ cs.length := by
  have h := congrArg List.length (splitHead_append s cs)
  simp only [List.length_append] at h
  omega

theorem length_of_splitHead_cons {s : HeadState} {c : Char} (cs : List Char)
    (h : s.stops c = false) : (splitHead s (c :: cs)).2.length ≤ cs.length := by
  simpa [splitHead, h] using length_of_splitHead (s.step c) cs

inductive Token where
  | comment (text : List Char)
  /-- A head with the brace that opens its block. -/
  | opening (head : List Char)
  /-- A head that ended without a block. -/
  | statement (head : List Char)
  | closing
deriving DecidableEq, Repr

/-- Reads a head at the start of the text, and what ends it. -/
def scanHead (cs : List Char) : Token × List Char :=
  let (head, rest) := splitHead {} cs
  match rest with
  | '{' :: rest => (.opening (Text.trim head), rest)
  | ';' :: rest => (.statement (Text.trim head), rest)
  | rest => (.statement (Text.trim head), rest)

theorem length_of_scanHead {c : Char} (cs : List Char)
    (h : (c = '{' || c = ';' || c = '}') = false) :
    (scanHead (c :: cs)).2.length ≤ cs.length := by
  have hs : HeadState.stops {} c = false := by simp [HeadState.stops, h]
  have := length_of_splitHead_cons cs hs
  unfold scanHead
  split
  next head rest hr =>
    rw [hr] at this
    split <;> simp_all <;> omega

/-- A block without a head: its brace stands where a head would start. -/
theorem scanHead_brace (cs : List Char) : scanHead ('{' :: cs) = (.opening [], cs) := by
  simp [scanHead, splitHead, HeadState.stops, Text.trim, Text.trimBy]

namespace Token

/-- The tokens of a text, in order. Semicolons that end nothing are skipped. -/
def scan : List Char → List Token
  | [] => []
  | '/' :: '*' :: rest =>
    match h : splitComment rest with
    | (body, some after) =>
      have : after.length < rest.length := length_of_splitComment (by rw [h])
      comment (Text.trim body) :: scan after
    | (body, none) => [comment (Text.trim body)]
  | c :: rest =>
    if skipped : Text.isAsciiBlank c || c = ';' then scan rest
    else if closes : c = '}' then closing :: scan rest
    else
      have : (scanHead (c :: rest)).2.length < rest.length + 1 := by
        by_cases hb : c = '{'
        · subst hb
          simp [scanHead_brace]
        · have := length_of_scanHead (c := c) rest (by simp_all)
          omega
      (scanHead (c :: rest)).1 :: scan (scanHead (c :: rest)).2
termination_by cs => cs.length

end Token

end StylesheetAssets.Stylesheet
