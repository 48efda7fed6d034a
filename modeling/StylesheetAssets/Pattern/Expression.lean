import StylesheetAssets.Text
import StylesheetAssets.Unicode.CharSet

/-!
Regular expressions.

The constructors of the type are combined by functions that keep expressions simple: sequences
hold no sequences, nothing empty and no two texts side by side, and a choice among single
characters is a set of characters. Sequences and choices are nested to the right.
-/
namespace StylesheetAssets.Pattern

open Unicode (CharSet)

/-- A condition on the place between two characters. -/
inductive Assertion where
  | textStart
  | textEnd
  /-- Starts and ends of lines; with `crlf`, a carriage return ends a line too. -/
  | lineStart (crlf : Bool)
  | lineEnd (crlf : Bool)
  | wordBoundary (unicode : Bool)
  | noWordBoundary (unicode : Bool)
  | wordStart (unicode : Bool)
  | wordEnd (unicode : Bool)
  /-- No word in front. -/
  | wordStartHalf (unicode : Bool)
  /-- No word behind. -/
  | wordEndHalf (unicode : Bool)
deriving DecidableEq, Inhabited, Repr

inductive Expression where
  | empty
  | text (cs : List Char)
  | chars (set : CharSet)
  | assertion (a : Assertion)
  | sequence (first second : Expression)
  | choice (left right : Expression)
  /-- The body from `least` to `most` times, or any number of times from `least`. Whether many or
  few are tried first decides which match is found, not whether there is one. -/
  | repetition (body : Expression) (least : Nat) (most : Option Nat) (greedy : Bool)
  | group (number : Nat) (body : Expression)
deriving DecidableEq, Inhabited, Repr

namespace Expression

/-- Bytes of the shortest match, unless there is none. -/
def minLength? : Expression → Option Nat
  | empty => some 0
  | text cs => some (Text.byteLength cs)
  | chars set => set.ranges.head?.map fun r => (Char.ofNat r.first).utf8Size
  | assertion _ => some 0
  | sequence first second => return (← first.minLength?) + (← second.minLength?)
  | choice left right => return min (← left.minLength?) (← right.minLength?)
  | repetition body least _ _ => body.minLength?.map (least * ·)
  | group _ body => body.minLength?

/-- What the form of an expression shows about where its matches lie. -/
structure Placement where
  /-- Matches start only where the text starts. -/
  atStart : Bool
  /-- Matches end only where the text ends. -/
  atEnd : Bool
  /-- Matches are empty. -/
  idle : Bool
deriving DecidableEq, Inhabited, Repr

def Placement.append (first second : Placement) : Placement where
  atStart := first.atStart || (first.idle && second.atStart)
  atEnd := second.atEnd || (second.idle && first.atEnd)
  idle := first.idle && second.idle

theorem Placement.append_assoc (p q r : Placement) :
    (p.append q).append r = p.append (q.append r) := by
  simp [append, Bool.and_or_distrib_left, Bool.or_assoc, Bool.and_assoc, Bool.and_left_comm]

def placement : Expression → Placement
  | empty => ⟨false, false, true⟩
  | text cs => ⟨false, false, cs.isEmpty⟩
  | chars _ => ⟨false, false, false⟩
  | assertion a => ⟨a = .textStart, a = .textEnd, true⟩
  | sequence first second => first.placement.append second.placement
  | choice left right =>
    let p := left.placement
    let q := right.placement
    ⟨p.atStart && q.atStart, p.atEnd && q.atEnd, p.idle && q.idle⟩
  | repetition body least most _ =>
    let p := body.placement
    ⟨0 < least && p.atStart, 0 < least && p.atEnd, most.any fun n => n = 0 || p.idle⟩
  | group _ body => body.placement

def parts : Expression → List Expression
  | sequence first second => first :: second.parts
  | e => [e]

def branches : Expression → List Expression
  | choice left right => left :: right.branches
  | e => [e]

/-- The sequence of parts that need no simplification. -/
def ofParts : List Expression → Expression
  | [] => empty
  | [e] => e
  | e :: rest => sequence e (ofParts rest)

/-- The choice among branches that need no simplification. -/
def ofBranches : List Expression → Expression
  | [] => chars .empty
  | [e] => e
  | e :: rest => choice e (ofBranches rest)

/-- A set of characters, or the text of its only member. -/
def ofSet (set : CharSet) : Expression :=
  match set.single? with
  | some c => text [c]
  | none => chars set

/-- Parts in order, with texts side by side joined to one. -/
def joinTexts : List Expression → List Expression
  | [] => []
  | text cs :: rest =>
    match joinTexts rest with
    | text ds :: more => text (cs ++ ds) :: more
    | more => text cs :: more
  | e :: rest => e :: joinTexts rest

def concat (es : List Expression) : Expression :=
  ofParts (joinTexts ((es.flatMap parts).filter (· ≠ empty)))

def singleChar? : Expression → Option Char
  | text [c] => some c
  | _ => none

def charSet? : Expression → Option CharSet
  | chars set => some set
  | _ => none

/-- The number of parts that two sequences start with in common. -/
def commonParts : List Expression → List Expression → Nat
  | e :: es, f :: fs => if e = f then commonParts es fs + 1 else 0
  | _, _ => 0

/-- The number of parts that all branches start with in common, if all are sequences. -/
def commonStart (branches : List Expression) : Nat :=
  match branches with
  | [] => 0
  | first :: rest =>
    if branches.all (2 ≤ ·.parts.length) then
      rest.foldl (fun n e => min n (commonParts first.parts e.parts)) first.parts.length
    else 0

/-- How many constructors an expression consists of. -/
def size : Expression → Nat
  | sequence first second => first.size + second.size + 1
  | choice left right => left.size + right.size + 1
  | repetition body _ _ _ => body.size + 1
  | group _ body => body.size + 1
  | _ => 1

/-- One of several expressions. What all branches start with stands in front of the choice. `fuel`
bounds how often that is done, each time with fewer constructors left. -/
def alternativesOf : (fuel : Nat) → List Expression → Expression
  | 0, es => ofBranches es
  | fuel + 1, es =>
    let es := es.flatMap branches
    if es.length < 2 then ofBranches es
    else if let some cs := es.mapM singleChar? then ofSet (.ofChars cs)
    else if let some sets := es.mapM charSet? then ofSet (.ofRanges (sets.flatMap (·.ranges)))
    else
      match commonStart es with
      | 0 => ofBranches es
      | n =>
        let start := (es.head?.map (·.parts.take n)).getD []
        let rest := alternativesOf fuel (es.map fun e => concat (e.parts.drop n))
        concat (start ++ [rest])

def alternation (es : List Expression) : Expression :=
  alternativesOf ((es.map size).foldl (· + ·) 1) es

/-- A repeated expression. One that matches only the empty text is not repeated. -/
def repeated (body : Expression) (least : Nat) (most : Option Nat) (greedy : Bool) : Expression :=
  let idle := body.placement.idle
  let least := if idle then min least 1 else least
  let most := if idle then some (min (most.getD 1) 1) else most
  if most = some 0 then empty
  else if least = 1 ∧ most = some 1 then body
  else repetition body least most greedy

end Expression

end StylesheetAssets.Pattern
