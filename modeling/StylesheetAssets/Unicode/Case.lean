import StylesheetAssets.Unicode.CaseClasses
import StylesheetAssets.Unicode.CharSet

/-!
Characters without regard to their case.
-/
namespace StylesheetAssets.Unicode

def caseTable : List (List Nat) :=
  caseClasses.flatMap fun line =>
    (Text.splitOn ' ' line.toList).map fun word => (Text.splitOn '/' word).map Text.readHex

/-- A character and those that differ from it only in case. -/
def caseMates (c : Char) : CharSet :=
  match caseTable.find? (·.contains c.toNat) with
  | some mates => .ofCodes mates
  | none => .single c

/-- The same among ASCII characters alone. -/
def asciiCaseMates (c : Char) : CharSet :=
  if c.isUpper then .ofChars [c, c.toLower]
  else if c.isLower then .ofChars [c.toUpper, c]
  else .single c

namespace CharSet

/-- The smallest set around another that has no character without those that differ from it only
in case. -/
def closedUnderCase (s : CharSet) : CharSet :=
  s ∪ ofCodes (caseTable.flatMap fun mates => if mates.any s.containsCode then mates else [])

/-- The same for sets of ASCII characters. -/
def closedUnderAsciiCase (s : CharSet) : CharSet :=
  s ∪ ofChars (((List.range 128).map Char.ofNat).filter fun c =>
    (c.isUpper && s.contains c.toLower) || (c.isLower && s.contains c.toUpper))

end CharSet

end StylesheetAssets.Unicode
