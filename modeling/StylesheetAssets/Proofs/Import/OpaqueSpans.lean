import StylesheetAssets.Proofs.Import.SpanSearch
import StylesheetAssets.Proofs.Stylesheet.Bytewise.Comments

/-!
The comments and strings of a text, looked for by bytes. Behind a backslash the search goes on two
bytes further, which may be within a character or behind the end of the text.
-/
namespace StylesheetAssets.Import

open Stylesheet (CommentParts)
open Stylesheet.Bytewise (findCommentEnd goes_findCommentEnd)
open Text (ByteReader IsBoundary byteAt byteLength bytes)
open Text.ByteReader

/-! ### The reader -/

/-- A text that is searched by its bytes. -/
abbrev Code := List Char

namespace Code

/-- Where a string ends that goes on at `j`: at its quote, with its line, or not before the end. -/
def stringEnd (text : Code) (quote : Char) (j : Nat) : Option Nat :=
  match byteAt text j with
  | none => some j
  | some c =>
    if c = quote ∨ c = '\n' then some j
    else if c = '\\' then text |>.stringEnd quote (j + 2)
    else text |>.stringEnd quote (j + 1)
partial_fixpoint

/-- Passes what stands at the cursor and answers its span, if it is a comment or a string. It
answers none at the end of the text. -/
def readSpan (text : Code) : ByteReader (Option (List Span)) := do
  let start ← cursor
  match ← peek text with
  | none => return none
  | some c =>
    if c = '/' ∧ byteAt text (start + 1) = some '*' then
      moveTo (← findCommentEnd text).2
      return some [⟨start, ← cursor⟩]
    else if c = '"' ∨ c = '\'' then
      let last ← StateT.lift (stringEnd text c (start + 1))
      moveTo (min (last + 1) (byteLength text))
      return some [⟨start, ← cursor⟩]
    else
      skip 1
      return some []

def readSpans (text : Code) (spans : List Span) : ByteReader (List Span) := do
  let start ← cursor
  match ← readSpan text with
  | none => return spans
  | some more =>
    note (.turned start (← cursor))
    text |>.readSpans (spans ++ more)
partial_fixpoint

end Code

open Code

/-! ### Single spans -/

/-- A comment or a string starts here. -/
def StartsOpaque (s : List Char) : Prop := ['/', '*'] <+: s ∨ ['"'] <+: s ∨ ['\''] <+: s

/-- A comment or a string in front of the rest of a text. -/
inductive OpaqueFront : List Char → List Char → List Char → Prop
  | comment {rest body mark after : List Char} (h : CommentParts rest body mark after) :
    OpaqueFront ('/' :: '*' :: rest) ('/' :: '*' :: (body ++ mark)) after
  | string {q : Char} {rest : List Char} (hq : q = '"' ∨ q = '\'') :
    OpaqueFront (q :: rest) (q :: (splitLineString q rest).1) (splitLineString q rest).2

namespace OpaqueFront

variable {text front s part after : List Char}

theorem append_eq (h : OpaqueFront s part after) : part ++ after = s := by
  cases h with
  | comment h =>
    rw [← h.append_eq]
    simp
  | string hq => rw [List.cons_append, splitLineString_append]

theorem starts (h : OpaqueFront s part after) : StartsOpaque part := by
  cases h with
  | comment h => exact .inl ⟨_, rfl⟩
  | string hq =>
    rcases hq with rfl | rfl
    · exact .inr (.inl ⟨_, rfl⟩)
    · exact .inr (.inr ⟨_, rfl⟩)

theorem append_append_eq (h : OpaqueFront s part after) (htext : front ++ s = text) :
    front ++ part ++ after = text := by
  rw [List.append_assoc, h.append_eq, htext]

theorem ne_nil (h : OpaqueFront s part after) : part ≠ [] := by
  cases h <;> simp

theorem spans_eq (h : OpaqueFront s part after) (offset : Nat) :
    opaqueSpans offset s =
      ⟨offset, offset + byteLength part⟩ :: opaqueSpans (offset + byteLength part) after := by
  cases h with
  | @comment rest body mark after h =>
    have hplace (s : List Char) :
        offset + byteLength ('/' :: '*' :: s) = offset + byteLength s + 2 := by
      have hsize : Char.utf8Size '/' = 1 ∧ Char.utf8Size '*' = 1 := ⟨rfl, rfl⟩
      rw [Text.byteLength_cons, Text.byteLength_cons]
      omega
    rw [hplace]
    cases h with
    | closed h =>
      rw [opaqueSpans_comment offset h, Text.byteLength_append]
      rfl
    | unclosed h => rw [opaqueSpans_open_comment offset h, List.append_nil, opaqueSpans]
  | @string q rest hq =>
    have hsize : q.utf8Size = 1 := by rcases hq with rfl | rfl <;> rfl
    rw [opaqueSpans_string hq, Text.byteLength_cons, hsize, Nat.add_assoc]

end OpaqueFront

/-- A text is searched by comments and strings and the characters between them. -/
@[elab_as_elim]
theorem search_induction {motive : List Char → Prop} (nil : motive [])
    (opaqueFront : ∀ {s part after}, OpaqueFront s part after → motive after → motive s)
    (character : ∀ {c rest}, ¬(c = '"' ∨ c = '\'') → (∀ more, c :: rest ≠ '/' :: '*' :: more) →
      motive rest → motive (c :: rest))
    (s : List Char) : motive s := by
  induction hn : s.length using Nat.strongRecOn generalizing s with
  | _ n ih =>
    subst hn
    have hfront {part after : List Char} (h : OpaqueFront s part after) : motive s := by
      have hlength := congrArg List.length h.append_eq
      have hpos := List.length_pos_iff.2 h.ne_nil
      rw [List.length_append] at hlength
      exact opaqueFront h (ih after.length (by omega) after rfl)
    cases s with
    | nil => exact nil
    | cons c rest =>
      by_cases hq : c = '"' ∨ c = '\''
      · exact hfront (.string hq)
      by_cases hcomment : ∃ more, c :: rest = '/' :: '*' :: more
      · obtain ⟨more, hmore⟩ := hcomment
        obtain ⟨body, mark, after, h⟩ := CommentParts.exists_of more
        rw [hmore] at hfront ⊢
        exact hfront (.comment h)
      · exact character hq (fun more hmore => hcomment ⟨more, hmore⟩)
          (ih rest.length (Nat.lt_succ_self _) rest rfl)

/-! ### Spans of a text -/

/-- The spans follow each other. -/
theorem inOrder_opaqueSpans (offset : Nat) (s : List Char) : InOrder (opaqueSpans offset s) := by
  induction s using search_induction generalizing offset with
  | nil =>
    rw [opaqueSpans]
    exact ⟨by simp, .nil⟩
  | opaqueFront h ih =>
    have hpos := Text.byteLength_pos h.ne_nil
    rw [h.spans_eq]
    exact inOrder_cons.2 ⟨Nat.lt_add_of_pos_right hpos, le_start_of_mem_opaqueSpans, ih _⟩
  | character hc hcomment ih =>
    rw [opaqueSpans_other hc hcomment]
    exact ih _

/-- A stretch of the text from the start of a comment or a string on, up to between characters. -/
structure IsOpaqueSpan (text : List Char) (span : Span) : Prop where
  stop_le : span.stop ≤ byteLength text
  boundary : IsBoundary text span.stop
  starts : ∃ front rest, front ++ rest = text ∧ byteLength front = span.start ∧ StartsOpaque rest

theorem OpaqueFront.isOpaqueSpan {text front s part after : List Char}
    (h : OpaqueFront s part after) (htext : front ++ s = text) :
    IsOpaqueSpan text ⟨byteLength front, byteLength (front ++ part)⟩ := by
  have hparts := h.append_append_eq htext
  have hstarts : StartsOpaque s := by
    rw [← h.append_eq]
    exact h.starts.imp (·.trans (List.prefix_append ..))
      (Or.imp (·.trans (List.prefix_append ..)) (·.trans (List.prefix_append ..)))
  exact ⟨byteLength_le_of_append hparts, hparts ▸ Text.isBoundary_byteLength _ _,
    front, s, htext, rfl, hstarts⟩

theorem forall_opaqueSpans {text front rest : List Char} (htext : front ++ rest = text) :
    ∀ span ∈ opaqueSpans (byteLength front) rest, IsOpaqueSpan text span := by
  induction rest using search_induction generalizing front with
  | nil => simp [opaqueSpans]
  | @opaqueFront s part after h ih =>
    have hparts := h.append_append_eq htext
    rw [h.spans_eq, ← Text.byteLength_append, List.forall_mem_cons]
    exact ⟨h.isOpaqueSpan htext, ih hparts⟩
  | @character c rest hc hcomment ih =>
    have hbehind : front ++ [c] ++ rest = text := by simpa using htext
    rw [opaqueSpans_other hc hcomment]
    simpa using ih hbehind

example : opaqueSpans 0 "a /* b */ 'c\\'d' \"e".toList = [⟨2, 9⟩, ⟨10, 16⟩, ⟨17, 19⟩] := by cbv

/-! ### The end of a string -/

/-- A string that goes on at `j` stops at `stop`. -/
def StopsAt (text : List Char) (quote : Char) (stop j : Nat) : Prop :=
  ∃ last, stringEnd text quote j = some last ∧ min (last + 1) (byteLength text) = stop

section StringEnd

variable {text front rest : List Char} {q : Char} {stop j : Nat}

/-- The bytes of longer characters mean nothing to the search. -/
theorem stopsAt_of_long (hq : q = '"' ∨ q = '\'') (i : Nat) (b : UInt8)
    (hb : (bytes text)[i]? = some b) (hle : 128 ≤ b.toNat) (h : StopsAt text q stop (i + 1)) :
    StopsAt text q stop i := by
  have hne (c : Char) (hc : c.toNat < 128) : Text.charOf b ≠ c := Text.charOf_ne hle hc
  have hascii := Text.toNat_lt_of_quote hq
  obtain ⟨last, hlast, hstop⟩ := h
  refine ⟨last, ?_, hstop⟩
  rw [stringEnd, Text.byteAt_of_byte hb]
  simpa [hne, hascii] using hlast

theorem stopsAt_of_end (hj : byteLength text ≤ j) : StopsAt text q (byteLength text) j := by
  refine ⟨j, ?_, by omega⟩
  rw [stringEnd, Text.byteAt_of_le hj]

theorem stopsAt_of_escape (htext : front ++ '\\' :: rest = text) (hq : q ≠ '\\')
    (h : StopsAt text q stop (byteLength (front ++ ['\\']) + 1)) :
    StopsAt text q stop (byteLength front) := by
  obtain ⟨last, hlast, hstop⟩ := h
  refine ⟨last, ?_, hstop⟩
  rw [Text.byteLength_concat (by decide)] at hlast
  rw [stringEnd, Text.byteAt_of_lt htext (by decide)]
  dsimp only
  rwa [if_neg (by simp [hq.symm]), if_pos rfl]

theorem stopsAt_of_other {c : Char} (htext : front ++ c :: rest = text) (hc : c.toNat < 128)
    (hend : ¬(c = q ∨ c = '\n')) (hescape : c ≠ '\\')
    (h : StopsAt text q stop (byteLength (front ++ [c]))) :
    StopsAt text q stop (byteLength front) := by
  obtain ⟨last, hlast, hstop⟩ := h
  refine ⟨last, ?_, hstop⟩
  rw [Text.byteLength_concat hc] at hlast
  rw [stringEnd, Text.byteAt_of_lt htext hc]
  dsimp only
  rwa [if_neg hend, if_neg hescape]

/-- The search stops where the string is split off. -/
theorem stopsAt_splitLineString (hq : q = '"' ∨ q = '\'') (htext : front ++ rest = text) :
    StopsAt text q (byteLength (front ++ (splitLineString q rest).1)) (byteLength front) := by
  have hbackslash : q ≠ '\\' := by rcases hq with rfl | rfl <;> decide
  have hascii := Text.toNat_lt_of_quote hq
  fun_induction splitLineString q rest generalizing front with
  | case1 =>
    rw [htext]
    exact stopsAt_of_end (by simp [← htext])
  | case2 c rest body after hr ih =>
    have hescaped : front ++ ['\\'] ++ c :: rest = text := by simpa using htext
    have hbehind : front ++ ['\\'] ++ [c] ++ rest = text := by simpa using htext
    have hrest := ih hbehind
    rw [hr, List.append_assoc, List.append_assoc] at hrest
    refine stopsAt_of_escape htext hbackslash ?_
    -- The search goes on behind one byte of `c`, which the other bytes of `c` lead out of.
    exact Text.of_behind hescaped (stopsAt_of_long hq) (by simpa using hrest) c.utf8Size_pos
      (by simp)
  | case3 c rest hne hend =>
    have hc : c.toNat < 128 := by
      rcases hend with rfl | rfl
      · exact hascii
      · decide
    have hle := byteLength_le_of_append ((List.append_cons front c rest).symm.trans htext)
    rw [Text.byteLength_concat hc] at hle ⊢
    refine ⟨byteLength front, ?_, by omega⟩
    rw [stringEnd, Text.byteAt_of_lt htext hc]
    exact if_pos hend
  | case4 c rest hne hend body after hr ih =>
    have hbehind : front ++ [c] ++ rest = text := by simpa using htext
    have hrest := ih hbehind
    rw [hr, List.append_assoc] at hrest
    by_cases hescape : c = '\\'
    · subst hescape
      cases rest with
      | nil =>
        cases hr
        rw [htext]
        exact stopsAt_of_escape htext hbackslash (stopsAt_of_end (by simp [← htext]))
      | cons d rest => exact absurd rfl (hne d rest rfl)
    rcases Nat.lt_or_ge c.toNat 128 with hlt | hge
    · exact stopsAt_of_other htext hlt hend hescape hrest
    · exact Text.of_behind htext (stopsAt_of_long hq) hrest (Nat.zero_le _) fun _ => hge

end StringEnd

/-! ### The search by bytes -/

section Search

variable {text front rest s part after : List Char}

/-- Whether a comment starts is seen at the next byte. -/
theorem byteAt_star_iff (htext : front ++ '/' :: rest = text) :
    byteAt text (byteLength front + 1) = some '*' ↔ ∃ more, rest = '*' :: more := by
  have hslash : '/'.toNat < 128 := by decide
  rw [← Text.byteLength_concat hslash]
  cases rest with
  | nil =>
    rw [htext, Text.byteAt_of_le (Nat.le_refl _)]
    simp
  | cons d rest =>
    have hbehind : front ++ ['/'] ++ d :: rest = text := by simpa using htext
    obtain ⟨e, he, hat⟩ := Text.exists_byteAt hbehind
    have hstar := he (· == '*') (Text.isAscii_eq (by decide))
    rw [hat]
    simpa using hstar

theorem OpaqueFront.goes_readSpan (h : OpaqueFront s part after) (htext : front ++ s = text) :
    Goes text (readSpan text) (byteLength front)
      (some [⟨byteLength front, byteLength (front ++ part)⟩]) (byteLength (front ++ part)) := by
  have hparts := h.append_append_eq htext
  have hmove := goes_moveTo_behind hparts
  cases h with
  | comment h =>
    refine goes_cursor.bind ((goes_peek htext (by decide)).bind ?_)
    dsimp only
    rw [if_pos ⟨rfl, (byteAt_star_iff htext).2 ⟨_, rfl⟩⟩]
    exact (goes_findCommentEnd h htext).bind (hmove.bind (goes_cursor.bind (goes_pure _)))
  | @string q rest hq =>
    have hascii := Text.toNat_lt_of_quote hq
    have hslash : q ≠ '/' := by rcases hq with rfl | rfl <;> decide
    have hbehind : front ++ [q] ++ rest = text := by simpa using htext
    obtain ⟨last, hlast, hstop⟩ := stopsAt_splitLineString hq hbehind
    rw [Text.byteLength_concat hascii] at hlast
    rw [List.append_assoc, List.singleton_append] at hstop
    refine goes_cursor.bind ((goes_peek htext hascii).bind ?_)
    dsimp only
    rw [if_neg (by simp [hslash]), if_pos hq]
    refine (goes_lift hlast).bind ?_
    rw [hstop]
    exact hmove.bind (goes_cursor.bind (goes_pure _))

theorem goes_readSpan_character {c : Char} (htext : front ++ c :: rest = text) (hlt : c.toNat < 128)
    (hc : ¬(c = '"' ∨ c = '\'')) (hcomment : ∀ more, c :: rest ≠ '/' :: '*' :: more) :
    Goes text (readSpan text) (byteLength front) (some []) (byteLength (front ++ [c])) := by
  have hslash : ¬(c = '/' ∧ byteAt text (byteLength front + 1) = some '*') := by
    rintro ⟨rfl, hstar⟩
    obtain ⟨more, rfl⟩ := (byteAt_star_iff htext).1 hstar
    exact hcomment more rfl
  refine goes_cursor.bind ((goes_peek htext hlt).bind ?_)
  dsimp only
  rw [if_neg hslash, if_neg hc]
  exact (goes_skip_char htext hlt).bind (goes_pure _)

theorem goes_readSpans_turn {i j k : Nat} {spans more all : List Span}
    (hspan : Goes text (readSpan text) i (some more) j) (hturn : i < j)
    (hrest : Goes text (readSpans text (spans ++ more)) j all k) :
    Goes text (readSpans text spans) i all k := by
  rw [readSpans]
  exact goes_cursor.bind (hspan.bind (goes_cursor.bind ((goes_turned hturn).bind hrest)))

theorem overlooks_readSpans (spans : List Span) : Overlooks text (readSpans text spans) := by
  intro a j i b hb hle h
  have hne (c : Char) (hc : c.toNat < 128) : Text.charOf b ≠ c := Text.charOf_ne hle hc
  have hspan : Goes text (readSpan text) i (some []) (i + 1) := by
    refine goes_cursor.bind ((goes_peek_of (Text.byteAt_of_byte hb)).bind ?_)
    dsimp only
    rw [if_neg (by simp [hne]), if_neg (by simp [hne])]
    exact (goes_skip_byte hb).bind (goes_pure _)
  exact goes_readSpans_turn hspan (Nat.lt_succ_self i) (by rwa [List.append_nil])

/-- The search answers the spans of the rest of the text and stops at its end. -/
theorem goes_readSpans (htext : front ++ rest = text) (spans : List Span) :
    Goes text (readSpans text spans) (byteLength front)
      (spans ++ opaqueSpans (byteLength front) rest) (byteLength text) := by
  induction rest using search_induction generalizing front spans with
  | nil =>
    obtain rfl : front = text := by simpa using htext
    have hend : Goes front (readSpan front) (byteLength front) none (byteLength front) :=
      goes_cursor.bind (goes_peek_end.bind (goes_pure _))
    rw [readSpans, opaqueSpans, List.append_nil]
    exact goes_cursor.bind (hend.bind (goes_pure _))
  | @opaqueFront s part after h ih =>
    have hparts := h.append_append_eq htext
    have hturn := Text.byteLength_lt_append front h.ne_nil
    have hrest := ih hparts (spans ++ [⟨byteLength front, byteLength (front ++ part)⟩])
    rw [List.append_assoc, List.singleton_append] at hrest
    rw [h.spans_eq, ← Text.byteLength_append]
    exact goes_readSpans_turn (h.goes_readSpan htext) hturn hrest
  | @character c rest hc hcomment ih =>
    have hbehind : front ++ [c] ++ rest = text := by simpa using htext
    have hsize : byteLength (front ++ [c]) = byteLength front + c.utf8Size := by simp
    have hrest := ih hbehind spans
    rw [opaqueSpans_other hc hcomment, ← hsize]
    rcases Nat.lt_or_ge c.toNat 128 with hlt | hge
    · have hturn := Text.byteLength_lt_append front (List.cons_ne_nil c [])
      have hspan := goes_readSpan_character htext hlt hc hcomment
      exact goes_readSpans_turn hspan hturn (by rwa [List.append_nil])
    · exact (overlooks_readSpans spans).character htext hge hrest

end Search

/-- The search for the comments and strings of a text comes to an end on every text, with its cursor
going forward in each turn and never cutting a character. Their spans are not empty, follow each
other, start at a comment or a quote and stop between characters. So the one span that is found by
halves tells of every offset whether any span holds it. -/
theorem opaqueSpans_searchable (code : String) :
    (∃ last, (readSpans code.toList []).run {} = some (opaqueSpans 0 code.toList, last) ∧
      follow 0 last.events = some last.cursor ∧ ∀ e ∈ last.events, e.Allowed code.toList) ∧
    InOrder (opaqueSpans 0 code.toList) ∧
    (∀ span ∈ opaqueSpans 0 code.toList, IsOpaqueSpan code.toList span) ∧
    ∀ offset,
      isLive (opaqueSpans 0 code.toList) offset = !isOpaque (opaqueSpans 0 code.toList) offset ∧
      (isLive (opaqueSpans 0 code.toList) offset = true ↔
        ∀ span ∈ opaqueSpans 0 code.toList, ¬(span.start ≤ offset ∧ offset < span.stop)) := by
  have horder := inOrder_opaqueSpans 0 code.toList
  have hsearch := @goes_readSpans code.toList [] code.toList rfl []
  refine ⟨hsearch.exists_run, horder, @forall_opaqueSpans _ [] _ rfl, fun offset => ?_⟩
  refine ⟨horder.isLive_eq offset, ?_⟩
  rw [horder.isLive_eq, Bool.not_eq_true', ← Bool.not_eq_true, horder.isOpaque_iff]
  simp only [not_exists, not_and]

end StylesheetAssets.Import
