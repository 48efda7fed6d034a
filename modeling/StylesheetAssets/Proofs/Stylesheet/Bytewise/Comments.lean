import StylesheetAssets.Proofs.Stylesheet.Substance
import StylesheetAssets.Proofs.Text.ByteReader

/-!
The end of a comment, looked for by bytes from its start on.
-/
namespace StylesheetAssets.Stylesheet

/-- The inside of a comment with its end mark, if it has one, and what follows. -/
inductive CommentParts (s : List Char) : List Char → List Char → List Char → Prop
  | closed {body after : List Char} (h : splitComment s = (body, some after)) :
      CommentParts s body ['*', '/'] after
  | unclosed {body : List Char} (h : splitComment s = (body, none)) : CommentParts s body [] []

namespace CommentParts

variable {s body mark after : List Char}

theorem exists_of (s : List Char) : ∃ body mark after, CommentParts s body mark after := by
  cases h : splitComment s with
  | mk body after? =>
    cases after? with
    | some after => exact ⟨body, _, after, .closed h⟩
    | none => exact ⟨body, _, _, .unclosed h⟩

theorem append_eq (h : CommentParts s body mark after) : body ++ (mark ++ after) = s := by
  cases h with
  | closed h => exact append_of_splitComment h
  | unclosed h => simpa using eq_of_splitComment h

theorem scan_eq (h : CommentParts s body mark after) :
    Token.scan ('/' :: '*' :: s) = .comment (Text.trim body) :: Token.scan after := by
  cases h with
  | closed h => exact scan_comment h
  | unclosed h => rw [scan_open_comment h, scan_nil]

end CommentParts

namespace Bytewise

open Text (ByteReader find? byteLength)
open Text.ByteReader

variable {text front rest : List Char}

/-- The places where the comment at the cursor ends, without its mark and with it. -/
def findCommentEnd (text : List Char) : ByteReader (Nat × Nat) := do
  let inside := (← cursor) + 2
  match find? (['*', '/'].isPrefixOf ·) (← slice text inside (byteLength text)) with
  | some offset => return (inside + offset, inside + offset + 2)
  | none => return (byteLength text, byteLength text)

theorem isPrefixOf_eq_false {c d : Char} {s : List Char} (h : ∀ more, s ≠ c :: d :: more) :
    [c, d].isPrefixOf s = false := by
  rw [Bool.eq_false_iff, Ne, List.isPrefixOf_iff_prefix]
  rintro ⟨more, hmore⟩
  exact h more hmore.symm

/-- The end of a comment is where the comment is split. -/
theorem find?_commentEnd (s : List Char) :
    find? (['*', '/'].isPrefixOf ·) s =
      (splitComment s).2.map fun _ => byteLength (splitComment s).1 := by
  fun_induction splitComment s with
  | case1 rest => rfl
  | case2 => rfl
  | case3 c rest hne body after hr ih =>
    have hopen : ['*', '/'].isPrefixOf (c :: rest) = false :=
      isPrefixOf_eq_false fun more hmore =>
        hne more (List.cons.inj hmore).1 (List.cons.inj hmore).2
    rw [find?, if_neg (by simp [hopen]), ih, hr]
    cases after <;> rfl

theorem goes_findCommentEnd {body mark after : List Char} (h : CommentParts rest body mark after)
    (htext : front ++ '/' :: '*' :: rest = text) :
    Goes text (findCommentEnd text) (byteLength front)
      (byteLength (front ++ '/' :: '*' :: body), byteLength (front ++ '/' :: '*' :: (body ++ mark)))
      (byteLength front) := by
  have hopen (s : List Char) :
      byteLength (front ++ '/' :: '*' :: s) = byteLength front + 2 + byteLength s := by
    rw [Text.byteLength_append, Text.byteLength_cons, Text.byteLength_cons]
    have hsize : Char.utf8Size '/' = 1 ∧ Char.utf8Size '*' = 1 := ⟨rfl, rfl⟩
    omega
  have hslice : Goes text (slice text (byteLength front + 2) (byteLength text)) (byteLength front)
      rest (byteLength front) := by
    have hrest : front ++ ['/', '*'] ++ rest ++ [] = text := by simpa using htext
    have hinside : Goes text _ (byteLength front) rest _ := goes_slice hrest
    rw [List.append_nil] at hrest
    rwa [hrest, hopen] at hinside
  refine goes_cursor.bind (hslice.bind ?_)
  rw [find?_commentEnd, hopen, hopen, ← htext, hopen]
  cases h with
  | closed h =>
    rw [h, Text.byteLength_append]
    exact goes_pure _
  | unclosed h =>
    rw [h, List.append_nil, eq_of_splitComment h]
    exact goes_pure _

theorem goes_startsWith_comment (htext : front ++ '/' :: '*' :: rest = text) :
    Goes text (startsWith text ['/', '*']) (byteLength front) true (byteLength front) :=
  goes_startsWith htext (by simp)

theorem goes_startsWith_other (htext : front ++ rest = text)
    (hcomment : ∀ more, rest ≠ '/' :: '*' :: more) :
    Goes text (startsWith text ['/', '*']) (byteLength front) false (byteLength front) := by
  rw [← isPrefixOf_eq_false hcomment]
  exact goes_startsWith htext (by simp)

end Bytewise

end StylesheetAssets.Stylesheet
