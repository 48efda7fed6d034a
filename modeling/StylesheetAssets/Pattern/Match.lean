import StylesheetAssets.Pattern.Expression
import StylesheetAssets.Unicode.Property

/-!
Whether an expression matches somewhere in a text.

An expression maps the positions at which a match may start to those at which it may end. Sets of
positions are lists in increasing order.
-/
namespace StylesheetAssets.Pattern

open Unicode (CharSet)

/-- Characters of words, of every script or of ASCII. -/
def wordSet (unicode : Bool) : CharSet :=
  if unicode then Unicode.wordCharacters else .ofTable ["30-39 41-5A 5F 61-7A"]

/-- Whether an assertion holds between the characters before and after a place. -/
def Assertion.holds (before after : Option Char) : Assertion → Bool
  | textStart => before.isNone
  | textEnd => after.isNone
  | lineStart false => before.all (· = '\n')
  | lineStart true => before.all fun c => c = '\n' || (c = '\r' && after ≠ some '\n')
  | lineEnd false => after.all (· = '\n')
  | lineEnd true => after.all fun c => c = '\r' || (c = '\n' && before ≠ some '\r')
  | wordBoundary u => inWord u before != inWord u after
  | noWordBoundary u => inWord u before == inWord u after
  | wordStart u => !inWord u before && inWord u after
  | wordEnd u => inWord u before && !inWord u after
  | wordStartHalf u => !inWord u before
  | wordEndHalf u => !inWord u after
where
  inWord (unicode : Bool) (c : Option Char) : Bool := c.any (wordSet unicode).contains

def mergePositions : List Nat → List Nat → List Nat
  | [], bs => bs
  | as, [] => as
  | a :: as, b :: bs =>
    if a < b then a :: mergePositions as (b :: bs)
    else if b < a then b :: mergePositions (a :: as) bs
    else a :: mergePositions as bs

theorem mem_mergePositions (i : Nat) (as bs : List Nat) :
    i ∈ mergePositions as bs ↔ i ∈ as ∨ i ∈ bs := by
  fun_induction mergePositions as bs with
  | case1 => simp
  | case2 => simp
  | case3 a as b bs _ ih => simp [ih, or_assoc]
  | case4 a as b bs _ _ ih => simp [ih, or_left_comm]
  | case5 a as b bs _ _ ih =>
    obtain rfl : a = b := by omega
    simp [ih]
    grind

/-- All positions that repeated steps lead to. `fuel` bounds the number of steps that lead to
positions not `seen` before. -/
def reach (step : List Nat → List Nat) : (fuel : Nat) → (seen frontier : List Nat) → List Nat
  | 0, seen, _ => seen
  | fuel + 1, seen, frontier =>
    match (step frontier).filter (!seen.contains ·) with
    | [] => seen
    | new => reach step fuel (mergePositions seen new) new

/-- Positions that are reached by taking a step exactly so often. Positions that a step leads back
to need no more steps. -/
def stepTimes (step : List Nat → List Nat) : Nat → List Nat → List Nat
  | 0, starts => starts
  | n + 1, starts =>
    let ends := step starts
    if ends = starts then starts else stepTimes step n ends

/-- Positions behind a character, for those it stands at. -/
def stepOver (subject : Array Char) (p : Char → Bool) (starts : List Nat) : List Nat :=
  (starts.filter fun i => subject[i]?.any p).map (· + 1)

theorem mem_stepOver (subject : Array Char) (p : Char → Bool) (starts : List Nat) (i : Nat) :
    i + 1 ∈ stepOver subject p starts ↔ i ∈ starts ∧ subject[i]?.any p := by
  simp [stepOver]

namespace Expression

/-- The ends of all matches that start at one of the given positions. -/
def ends (subject : Array Char) : Expression → List Nat → List Nat
  | empty, starts => starts
  | text cs, starts => cs.foldl (fun reached c => stepOver subject (· = c) reached) starts
  | chars set, starts => stepOver subject set.contains starts
  | assertion a, starts =>
    starts.filter fun i => a.holds (if i = 0 then none else subject[i - 1]?) subject[i]?
  | sequence first second, starts => second.ends subject (first.ends subject starts)
  | choice left right, starts =>
    mergePositions (left.ends subject starts) (right.ends subject starts)
  | repetition body least most _, starts =>
    let required := stepTimes (body.ends subject) least starts
    match most with
    | none => reach (body.ends subject) (subject.size + 1) required required
    | some most =>
      reach (body.ends subject) (min (most - least) (subject.size + 1)) required required
  | group _ body, starts => body.ends subject starts

def matchesIn (e : Expression) (text : List Char) : Bool :=
  let subject := text.toArray
  !(e.ends subject (List.range (subject.size + 1))).isEmpty

end Expression

end StylesheetAssets.Pattern
