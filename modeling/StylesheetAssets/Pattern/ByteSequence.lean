import StylesheetAssets.Unicode.CharSet

/-!
The UTF-8 encodings of sets of characters, as sequences of ranges of bytes.

The encodings of a range of characters are cut where their number of bytes changes, and where one
byte changes while those behind it do not run through all their values. Each piece is a product of
ranges of bytes.
-/
namespace StylesheetAssets.Pattern

open Unicode (CharSet)

structure ByteRange where
  first : UInt8
  last : UInt8
deriving DecidableEq, Inhabited, Repr

def textBytes (cs : List Char) : List UInt8 := cs.flatMap String.utf8EncodeChar

/-- The encodings of two characters, byte by byte. -/
def byteRanges (first last : Nat) : List ByteRange :=
  (textBytes [Char.ofNat first]).zipWith ByteRange.mk (textBytes [Char.ofNat last])

/-- The last code points that are encoded in one, two and three bytes. -/
def lastOfLength : List Nat := [0x7f, 0x7ff, 0xffff]

/-- The number of code points that share all but their last byte, two bytes or three bytes. -/
def blockSizes : List Nat := [0x40, 0x1000, 0x40000]

/-- Where the encodings from `first` to `last` are cut so that they become products: the first code
point of the second piece. -/
def cut? (first last : Nat) : Option Nat :=
  if first < 0xe000 ∧ 0xd7ff < last then some 0xe000
  else
    match lastOfLength.find? fun m => first ≤ m && m < last with
    | some m => some (m + 1)
    | none =>
      if last ≤ 0x7f then none
      else
        blockSizes.findSome? fun block =>
          if first / block = last / block then none
          else if first % block ≠ 0 then some ((first / block + 1) * block)
          else if last % block ≠ block - 1 then some (last / block * block)
          else none

/-- The encodings of the characters from `first` to `last`. There are at most three cuts between
numbers of bytes, two in each block, and one where no characters are. -/
def rangeSequences : (fuel : Nat) → (first last : Nat) → List (List ByteRange)
  | 0, _, _ => []
  | fuel + 1, first, last =>
    match cut? first last with
    | none => [byteRanges first last]
    | some next =>
      rangeSequences fuel first (Unicode.Range.before next) ++ rangeSequences fuel next last

/-- The encodings of the members of a set, in increasing order. -/
def byteSequences (set : CharSet) : List (List ByteRange) :=
  set.ranges.flatMap fun r => rangeSequences 16 r.first r.last

end StylesheetAssets.Pattern
