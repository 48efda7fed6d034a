import StylesheetAssets.Pattern.Automaton.SharedState
import StylesheetAssets.Pattern.Automaton.TextTree
import StylesheetAssets.Pattern.Expression

/-!
Whether there is room for the automata of an expression: the one that searches forwards, which also
marks where groups start and end, and the one that searches backwards.
-/
namespace StylesheetAssets.Pattern

open Assemble

inductive Direction where
  | forwards
  | backwards
deriving DecidableEq, Inhabited, Repr

/-- Where an expression stands among the branches of a choice. The states that fork to the branches
and join them come behind the second one. -/
inductive Place where
  | alone
  | second
  | later
deriving DecidableEq, Inhabited, Repr

/-- Connects a branch that ends so with its choice. -/
def Place.connect (last : PartEnd) : Place → Assemble PartEnd
  | alone => return last
  | second => do
    let _ ← state
    let _ ← state
    ways 2
    lead last
    return .plain
  | later => do
    ways 1
    lead last
    return .plain

namespace Expression

/-- The texts of a choice among texts alone. -/
def texts? (e : Expression) : Option (List (List Char)) :=
  e.branches.mapM fun
    | text cs => some cs
    | _ => none

/-- The bytes of a text in the order in which they are read. -/
def bytesToRead (direction : Direction) (cs : List Char) : List UInt8 :=
  match direction with
  | .forwards => textBytes cs
  | .backwards => (textBytes cs).reverse

/-- The states that read a character of a set. -/
def assembleSet (direction : Direction) (set : Unicode.CharSet) : Assemble Unit := do
  if set.isAscii then
    let _ ← state
    let _ ← reader set.ranges.length
  else
    match direction with
    | .forwards => Forwards.set (byteSequences set)
    | .backwards => Backwards.set (byteSequences set)

/-- The states of an expression that stands alone or in a choice. -/
def assemble (direction : Direction) : Expression → Place → Assemble PartEnd
  | empty, place => do place.connect (← single)
  | text cs, place => do place.connect (← copies single (Text.byteLength cs))
  | chars set, place => do
    assembleSet direction set
    place.connect .plain
  | assertion _, place => do place.connect (← single)
  | sequence first second, place => do
    match direction with
    | .forwards =>
      let before ← first.assemble direction .alone
      let last ← second.assemble direction .alone
      lead before
      place.connect last
    | .backwards =>
      let before ← second.assemble direction .alone
      let last ← first.assemble direction .alone
      lead before
      place.connect last
  | choice left right, .alone => do
    match (choice left right).texts? with
    | some texts =>
      TextTree.set (texts.map (bytesToRead direction))
      return .plain
    | none =>
      let last ← left.assemble direction .alone
      let _ ← right.assemble direction .second
      lead last
      return .plain
  | choice left right, place => do
    let last ← left.assemble direction .alone
    let _ ← place.connect last
    right.assemble direction .later
  | repetition body least most _, place => do
    let copy := body.assemble direction .alone
    let last ←
      match most with
      | none => unbounded copy (body.minLength?.any (0 < ·)) least
      | some most =>
        if least = 0 ∧ most = 1 then optional copy else bounded copy least most
    place.connect last
  | group _ body, place => do
    match direction with
    | .forwards =>
      let _ ← state
      let last ← body.assemble direction .alone
      lead last
      let _ ← state
      place.connect .plain
    | .backwards =>
      let last ← body.assemble direction .alone
      place.connect last

/-- The states that pass over what is in front of a match, the match itself and its end. -/
def assembleSearch (direction : Direction) (e : Expression) : Assemble Unit := do
  let anchored :=
    match direction with
    | .forwards => e.placement.atStart
    | .backwards => e.placement.atEnd
  let _ ← state
  if !anchored then
    let _ ← state
    let _ ← reader 1
    ways 2
  lead (← (group 0 e).assemble direction .alone)
  let _ ← state

/-- Whether a choice among texts has so many of them that they are searched for in another way. -/
def isWordList (e : Expression) : Bool := e.texts?.any (3000 ≤ ·.length)

/-- Whether there is room for what searches for an expression. -/
def fits (e : Expression) : Bool :=
  e.isWordList ||
    [Direction.forwards, .backwards].all fun direction =>
      ((e.assembleSearch direction).run ⟨0, 0⟩).isSome

end Expression

end StylesheetAssets.Pattern
