import StylesheetAssets.Stylesheet.Token
import StylesheetAssets.Text

/-!
The comments and strings of a text, as spans in order.

A comment without an end runs to the end of the text, a string without one to the end of its line.
-/
namespace StylesheetAssets.Import

open Stylesheet (splitComment length_of_splitComment)

/-- The rest of a line behind the opening quote `q`: the string with its end, and what follows.
The string ends at its quote or with its line; a backslash takes the next character with it. -/
def splitLineString (q : Char) : List Char → List Char × List Char
  | [] => ([], [])
  | '\\' :: c :: rest =>
    let (body, after) := splitLineString q rest
    ('\\' :: c :: body, after)
  | c :: rest =>
    if c = q ∨ c = '\n' then ([c], rest)
    else
      let (body, after) := splitLineString q rest
      (c :: body, after)

theorem splitLineString_append (q : Char) (s : List Char) :
    (splitLineString q s).1 ++ (splitLineString q s).2 = s := by
  fun_induction splitLineString q s <;> simp_all

theorem length_of_splitLineString (q : Char) (s : List Char) :
    (splitLineString q s).2.length ≤ s.length := by
  have h := congrArg List.length (splitLineString_append q s)
  simp only [List.length_append] at h
  omega

/-- The spans of the comments and strings of a text that starts at `offset`. -/
def opaqueSpans (offset : Nat) : List Char → List Span
  | [] => []
  | '/' :: '*' :: rest =>
    match h : splitComment rest with
    | (body, some after) =>
      have : after.length < rest.length := length_of_splitComment (by rw [h])
      let stop := offset + Text.byteLength body + 4
      ⟨offset, stop⟩ :: opaqueSpans stop after
    | (body, none) => [⟨offset, offset + Text.byteLength body + 2⟩]
  | c :: rest =>
    if c = '"' ∨ c = '\'' then
      have := length_of_splitLineString c rest
      let stop := offset + 1 + Text.byteLength (splitLineString c rest).1
      ⟨offset, stop⟩ :: opaqueSpans stop (splitLineString c rest).2
    else opaqueSpans (offset + c.utf8Size) rest
termination_by s => s.length

/-- Whether an offset lies in one of the spans. They are in order, so only the first that does not
end before the offset has to be looked at. -/
def isOpaque (spans : List Span) (offset : Nat) : Bool :=
  match spans.dropWhile (·.stop ≤ offset) with
  | [] => false
  | span :: _ => span.contains offset

end StylesheetAssets.Import
