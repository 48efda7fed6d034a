import StylesheetAssets.Proofs.Stylesheet.Bytewise.Comments

/-!
Reading a stylesheet by its bytes, with one cursor for all nested blocks. A backslash takes the next
byte with it, which may be the first one of a longer character; the bytes of that character which
are left mean nothing.
-/
namespace StylesheetAssets.Stylesheet.Bytewise

open Text (ByteReader find? byteLength)
open Text.ByteReader

inductive HeadEnd where
  | block
  | semicolon
  | close
  | endOfText
deriving DecidableEq, Repr

/-- Name and parameters of an at-rule with the given head. -/
def readAtRule (head : List Char) : ByteReader (String × String) := do
  let body ← slice head 1 (byteLength head)
  let stop := (find? (·.head?.any endsName) body).getD (byteLength body)
  let name ← slice body 0 stop
  let params ← slice body stop (byteLength body)
  return (String.ofList name, String.ofList (Text.trim params))

def readBlock (head : List Char) (nodes : List Node) : ByteReader Node := do
  if ['@'].isPrefixOf head then
    let (name, params) ← readAtRule head
    return .atBlock name params nodes
  else return .rule (String.ofList head) nodes

def readStatement (head : List Char) : ByteReader (Option Node) := do
  if head.isEmpty then return none
  else if ['@'].isPrefixOf head then
    let (name, params) ← readAtRule head
    return some (.atStatement name params)
  else return some (declarationNode head)

/-- A text that is read by its bytes. -/
abbrev Source := List Char

namespace Source

def passBlanks (text : Source) : ByteReader Unit := do
  match ← peek text with
  | none => return
  | some c =>
    if Text.isAsciiBlank c then
      skip 1
      text |>.passBlanks
    else return
partial_fixpoint

/-- Passes the rest of a string behind its opening quote. -/
def passString (text : Source) (quote : Char) : ByteReader Unit := do
  match ← peek text with
  | none => return
  | some c =>
    skip 1
    if c = '\\' then moveTo (min ((← cursor) + 1) (byteLength text))
    else if c = quote then return
    text |>.passString quote
partial_fixpoint

/-- Moves to the end of a head: the next brace or semicolon outside of strings, comments and
parentheses. -/
def passHead (text : Source) (depth : Nat) : ByteReader HeadEnd := do
  match ← peek text with
  | none => return .endOfText
  | some c =>
    if c = '"' ∨ c = '\'' then
      skip 1
      passString text c
      text |>.passHead depth
    else if c = '\\' then
      moveTo (min ((← cursor) + 2) (byteLength text))
      text |>.passHead depth
    else if c = '/' then
      if ← startsWith text ['/', '*'] then moveTo (← findCommentEnd text).2 else skip 1
      text |>.passHead depth
    else if c = '(' then
      skip 1
      text |>.passHead (depth + 1)
    else if c = ')' then
      skip 1
      text |>.passHead (depth - 1)
    else if c = '{' ∧ depth = 0 then return .block
    else if c = ';' ∧ depth = 0 then return .semicolon
    else if c = '}' ∧ depth = 0 then return .close
    else
      skip 1
      text |>.passHead depth
partial_fixpoint

def readComment (text : Source) : ByteReader Node := do
  let inside := (← cursor) + 2
  let (stop, behind) ← findCommentEnd text
  moveTo behind
  return .comment (String.ofList (Text.trim (← slice text inside stop)))

mutual

/-- What stands at the cursor: the node that it adds to a block, if it is one, or none where the
block ends. -/
def readItem (text : Source) (nested : Bool) : ByteReader (Option (List Node)) := do
  match ← peek text with
  | none => return none
  | some c =>
    if ← startsWith text ['/', '*'] then return some [← readComment text]
    else if c = '}' then
      skip 1
      return if nested then none else some []
    else if c = ';' then
      skip 1
      return some []
    else
      let start ← cursor
      let ended ← passHead text 0
      let head := Text.trim (← slice text start (← cursor))
      return some (← text |>.readBehind head ended)
partial_fixpoint

/-- The node of a head, with its children if it has a block. -/
def readBehind (text : Source) (head : List Char) (ended : HeadEnd) : ByteReader (List Node) := do
  match ended with
  | .block =>
    skip 1
    let children ← text |>.readNodes true []
    return [← readBlock head children]
  | .semicolon =>
    skip 1
    return (← readStatement head).toList
  | .close | .endOfText => return (← readStatement head).toList
partial_fixpoint

/-- Reads nodes up to the end of the text, or in a nested block up to its closing brace. -/
def readNodes (text : Source) (nested : Bool) (nodes : List Node) :
    ByteReader (List Node) := do
  let start ← cursor
  passBlanks text
  match ← text |>.readItem nested with
  | none => return nodes
  | some more =>
    note (.turned start (← cursor))
    text |>.readNodes nested (nodes ++ more)
partial_fixpoint

end

end Source

end StylesheetAssets.Stylesheet.Bytewise
