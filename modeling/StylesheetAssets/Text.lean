/-!
Text as a list of characters: white space, trimming, and length in bytes.
-/
namespace StylesheetAssets.Text

/-- White space in the sense of the Unicode property `White_Space`. -/
def isBlank (c : Char) : Bool :=
  let n := c.toNat
  (0x09 ≤ n && n ≤ 0x0d) || n == 0x20 || n == 0x85 || n == 0xa0 || n == 0x1680 ||
    (0x2000 ≤ n && n ≤ 0x200a) || n == 0x2028 || n == 0x2029 || n == 0x202f ||
    n == 0x205f || n == 0x3000

/-- White space of the stylesheet grammar: space, tab, line feed, form feed, carriage return. -/
def isAsciiBlank (c : Char) : Bool :=
  c == ' ' || c == '\t' || c == '\n' || c == '\x0c' || c == '\r'

theorem isBlank_of_isAsciiBlank {c : Char} (h : isAsciiBlank c = true) : isBlank c = true := by
  simp only [isAsciiBlank, Bool.or_eq_true, beq_iff_eq] at h
  rcases h with (((h | h) | h) | h) | h <;> subst h <;> decide

/-- What is left of `s` once the characters of `p` are taken off both ends. -/
def trimBy (p : Char → Bool) (s : List Char) : List Char :=
  ((s.dropWhile p).reverse.dropWhile p).reverse

def trim (s : List Char) : List Char := trimBy isBlank s

def trimAscii (s : List Char) : List Char := trimBy isAsciiBlank s

def byteLength (s : List Char) : Nat := s.foldr (fun c n => c.utf8Size + n) 0

@[simp] theorem byteLength_nil : byteLength [] = 0 := rfl

@[simp] theorem byteLength_cons (c : Char) (s : List Char) :
    byteLength (c :: s) = c.utf8Size + byteLength s := rfl

@[simp] theorem byteLength_append (s t : List Char) :
    byteLength (s ++ t) = byteLength s + byteLength t := by
  induction s with
  | nil => simp
  | cons c s ih => simp [ih, Nat.add_assoc]

/-- The text before the first character of `p`, and that character with all that follows. -/
def splitAt (p : Char → Bool) (s : List Char) : List Char × List Char :=
  (s.takeWhile (!p ·), s.dropWhile (!p ·))

theorem splitAt_append (p : Char → Bool) (s : List Char) :
    (splitAt p s).1 ++ (splitAt p s).2 = s :=
  List.takeWhile_append_dropWhile

/-- Lower case of the letters `A` to `Z`; every other character stays. -/
def lowerAscii (s : String) : String := s.map Char.toLower

/-- A number of things: `1 file`, `2 files`. -/
def counted (n : Nat) (noun : String) : String :=
  toString n ++ " " ++ noun ++ if n = 1 then "" else "s"

/-- What follows the text `start`, where `s` begins with it. -/
def stripStart? : (start s : List Char) → Option (List Char)
  | [], s => some s
  | _ :: _, [] => none
  | c :: start, d :: s => if c = d then stripStart? start s else none

theorem stripStart?_eq_some_iff {start s rest : List Char} :
    stripStart? start s = some rest ↔ s = start ++ rest := by
  fun_induction stripStart? start s with
  | case1 s => simp
  | case2 => simp
  | case3 start d s ih => simp [ih]
  | case4 c start d s h => simp [Ne.symm h]

def joinWith (separator : List Char) : List (List Char) → List Char
  | [] => []
  | [piece] => piece
  | piece :: rest => piece ++ separator ++ joinWith separator rest

/-- The pieces of `s` between the occurrences of `c`; never empty. -/
def splitOn (c : Char) : List Char → List (List Char)
  | [] => [[]]
  | d :: rest =>
    if d = c then [] :: splitOn c rest
    else
      match splitOn c rest with
      | [] => [[d]]
      | piece :: pieces => (d :: piece) :: pieces

theorem splitOn_ne_nil (c : Char) (s : List Char) : splitOn c s ≠ [] := by
  cases s with
  | nil => simp [splitOn]
  | cons d rest =>
    unfold splitOn
    split
    · simp
    · split <;> simp

/-- Splitting loses nothing: the pieces joined again give the text. -/
theorem joinWith_splitOn (c : Char) (s : List Char) : joinWith [c] (splitOn c s) = s := by
  induction s with
  | nil => rfl
  | cons d rest ih =>
    unfold splitOn
    split
    · next h =>
      cases hs : splitOn c rest with
      | nil => exact absurd hs (splitOn_ne_nil c rest)
      | cons piece pieces => simp [joinWith, ← hs, ih, h]
    · cases hs : splitOn c rest with
      | nil => exact absurd hs (splitOn_ne_nil c rest)
      | cons piece pieces =>
        rw [hs] at ih
        cases pieces <;> simp_all [joinWith]

/-! ### Hexadecimal digits -/

/-- The value of a digit, in either case. -/
def hexValue? (c : Char) : Option Nat :=
  if '0' ≤ c ∧ c ≤ '9' then some (c.toNat - 48)
  else if 'a' ≤ c ∧ c ≤ 'f' then some (c.toNat - 87)
  else if 'A' ≤ c ∧ c ≤ 'F' then some (c.toNat - 55)
  else none

/-- The number that digits spell; other characters count as zero. -/
def readHex (digits : List Char) : Nat :=
  digits.foldl (fun n c => 16 * n + (hexValue? c).getD 0) 0

end StylesheetAssets.Text

/-! ### Stretches of a text, in bytes of its UTF-8 encoding -/

namespace StylesheetAssets

/-- The bytes from `start` on, up to but without `stop`. -/
structure Span where
  start : Nat
  stop : Nat
deriving DecidableEq, Repr

def Span.contains (s : Span) (offset : Nat) : Bool := s.start ≤ offset && offset < s.stop

end StylesheetAssets
