import StylesheetAssets.Text

/-!
Sets of characters as ranges of code points.

A set has one form for its members: ranges in increasing order, none touching the next. The
operations are those of sets of numbers, with one exception. No character lies between D7FF and
E000, so what comes after the one is the other.
-/
namespace StylesheetAssets.Unicode

structure Range where
  first : Nat
  last : Nat
deriving DecidableEq, Inhabited, Repr

namespace Range

def contains (r : Range) (n : Nat) : Bool := r.first ≤ n && n ≤ r.last

/-- The range between two code points in either order. -/
def between (m n : Nat) : Range := ⟨min m n, max m n⟩

/-- The last code point of all. -/
def top : Nat := 0x10ffff

/-- The code point of the character before. -/
def before (n : Nat) : Nat := if n = 0xe000 then 0xd7ff else n - 1

/-- The code point of the character after. -/
def after (n : Nat) : Nat := if n = 0xd7ff then 0xe000 else n + 1

end Range

structure CharSet where
  ranges : List Range
deriving DecidableEq, Inhabited, Repr

namespace CharSet

open Range (before after)

def containsCode (s : CharSet) (n : Nat) : Bool := s.ranges.any (·.contains n)

def contains (s : CharSet) (c : Char) : Bool := s.containsCode c.toNat

def empty : CharSet := ⟨[]⟩

def any : CharSet := ⟨[⟨0, Range.top⟩]⟩

def ascii : CharSet := ⟨[⟨0, 0x7f⟩]⟩

def single (c : Char) : CharSet := ⟨[⟨c.toNat, c.toNat⟩]⟩

def between (a b : Char) : CharSet := ⟨[⟨a.toNat, b.toNat⟩]⟩

def isEmpty (s : CharSet) : Bool := s.ranges.isEmpty

/-- The only member of a set that has one member. -/
def single? (s : CharSet) : Option Char :=
  match s.ranges with
  | [r] => if r.first = r.last then some (Char.ofNat r.first) else none
  | _ => none

def isAscii (s : CharSet) : Bool := s.ranges.all (·.last ≤ 0x7f)

/-- A range joined to ranges behind it that it touches or overlaps. -/
def joinTo (r : Range) : List Range → List Range
  | [] => [r]
  | s :: rest =>
    if s.first ≤ r.last + 1 then joinTo ⟨r.first, max r.last s.last⟩ rest else r :: joinTo s rest

/-- Ranges ordered by their starts, with those joined that touch or overlap. -/
def joinTouching : List Range → List Range
  | [] => []
  | r :: rest => joinTo r rest

/-- The set of the members of some ranges in any order. -/
def ofRanges (rs : List Range) : CharSet :=
  ⟨joinTouching (rs.mergeSort fun r s => r.first ≤ s.first)⟩

def ofCodes (ns : List Nat) : CharSet := ofRanges (ns.map fun n => ⟨n, n⟩)

def ofChars (cs : List Char) : CharSet := ofCodes (cs.map Char.toNat)

def union (a b : CharSet) : CharSet :=
  ⟨joinTouching (List.merge a.ranges b.ranges fun r s => r.first ≤ s.first)⟩

instance : Union CharSet := ⟨union⟩

/-- The ranges that a list of ranges has in common with another. -/
def common : List Range → List Range → List Range
  | [], _ => []
  | _, [] => []
  | r :: rs, s :: ss =>
    let shared : Range := ⟨max r.first s.first, min r.last s.last⟩
    let rest := if r.last < s.last then common rs (s :: ss) else common (r :: rs) ss
    if shared.first ≤ shared.last then shared :: rest else rest
termination_by rs ss => rs.length + ss.length

def intersection (a b : CharSet) : CharSet := ⟨common a.ranges b.ranges⟩

instance : Inter CharSet := ⟨intersection⟩

/-- What is left of a list of ranges without those of another. -/
def without : List Range → List Range → List Range
  | [], _ => []
  | rs, [] => rs
  | r :: rs, s :: ss =>
    if s.last < r.first then without (r :: rs) ss
    else if r.last < s.first then r :: without rs (s :: ss)
    else
      let rest :=
        if s.last < r.last then without (⟨after s.last, r.last⟩ :: rs) ss
        else without rs (s :: ss)
      if r.first < s.first then ⟨r.first, before s.first⟩ :: rest else rest
termination_by rs ss => rs.length + ss.length

def difference (a b : CharSet) : CharSet := ⟨without a.ranges b.ranges⟩

instance : SDiff CharSet := ⟨difference⟩

/-- What is in exactly one of two sets. -/
def exclusive (a b : CharSet) : CharSet := (a ∪ b) \ (a ∩ b)

/-- The gaps behind a range. That between ranges which end at D7FF and start at E000 consists of
these two. -/
def gapsBehind (r : Range) : List Range → List Range
  | [] => if r.last < Range.top then [⟨after r.last, Range.top⟩] else []
  | s :: rest => .between (after r.last) (before s.first) :: gapsBehind s rest

def complement (s : CharSet) : CharSet :=
  match s.ranges with
  | [] => any
  | r :: rest => ⟨(if 0 < r.first then [⟨0, before r.first⟩] else []) ++ gapsBehind r rest⟩

/-- The ranges in the lines of a table: `41-5A` for a range, `5F` for a single code point. -/
def ofTable (lines : List String) : CharSet :=
  ofRanges <| lines.flatMap fun line =>
    (Text.splitOn ' ' line.toList).map fun word =>
      match Text.splitOn '-' word with
      | [first, last] => ⟨Text.readHex first, Text.readHex last⟩
      | _ => ⟨Text.readHex word, Text.readHex word⟩

/-- The set that a list of tables has under a name. -/
def named? (tables : List (List String × List String)) (name : String) : Option CharSet :=
  (tables.find? (·.1.contains name)).map fun entry => ofTable entry.2

/-- The union of the sets that a list of tables has under some names. -/
def named (tables : List (List String × List String)) (names : List String) : CharSet :=
  ofRanges (names.flatMap fun name => ((named? tables name).getD empty).ranges)

end CharSet

end StylesheetAssets.Unicode
