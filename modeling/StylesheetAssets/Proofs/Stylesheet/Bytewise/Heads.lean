import StylesheetAssets.Proofs.Stylesheet.ClosedHead
import StylesheetAssets.Proofs.Stylesheet.Bytewise.Reader

/-!
Blanks, strings and heads are passed by bytes up to where they end as characters.
-/
namespace StylesheetAssets.Stylesheet

/-! ### Heads as characters -/

theorem splitHead_cons {s : HeadState} {c : Char} (h : s.stops c = false) (rest : List Char) :
    splitHead s (c :: rest) =
      (c :: (splitHead (s.step c) rest).1, (splitHead (s.step c) rest).2) := by
  rw [splitHead, if_neg (by simp [h])]

theorem splitHead_slash {rest : List Char} (h : ∀ more, rest ≠ '*' :: more) (depth : Nat) :
    splitHead ⟨.slash, depth⟩ rest = splitHead ⟨.plain, depth⟩ rest := by
  cases rest with
  | nil => rfl
  | cons c rest =>
    have hc : c ≠ '*' := fun hc => h rest (by rw [hc])
    have hstep : HeadState.step ⟨.slash, depth⟩ c = HeadState.step ⟨.plain, depth⟩ c := if_neg hc
    have hstops : HeadState.stops ⟨.slash, depth⟩ c = HeadState.stops ⟨.plain, depth⟩ c := rfl
    rw [splitHead, splitHead, hstep, hstops]

theorem splitHead_star {rest : List Char} (h : ∀ more, rest ≠ '/' :: more) (depth : Nat) :
    splitHead ⟨.star, depth⟩ rest = splitHead ⟨.comment, depth⟩ rest := by
  cases rest with
  | nil => rfl
  | cons c rest =>
    have hc : c ≠ '/' := fun hc => h rest (by rw [hc])
    have hstep : HeadState.step ⟨.star, depth⟩ c = HeadState.step ⟨.comment, depth⟩ c := if_neg hc
    rw [splitHead_cons rfl, splitHead_cons rfl, hstep]

/-- Behind a comment the head goes on. -/
theorem CommentParts.splitHead_eq {s body mark after : List Char}
    (h : CommentParts s body mark after) (depth : Nat) :
    splitHead ⟨.comment, depth⟩ s =
      (body ++ (mark ++ (splitHead ⟨.plain, depth⟩ after).1),
        (splitHead ⟨.plain, depth⟩ after).2) := by
  fun_induction splitComment s generalizing body with
  | case1 rest =>
    cases h with
    | closed h =>
      cases h
      rw [splitHead_cons rfl, splitHead_cons rfl]
      rfl
    | unclosed h => cases h
  | case2 =>
    cases h with
    | closed h => cases h
    | unclosed h =>
      cases h
      rfl
  | case3 c rest hne body' after' hr ih =>
    have hrest : splitHead (HeadState.step ⟨.comment, depth⟩ c) rest =
        splitHead ⟨.comment, depth⟩ rest := by
      by_cases hc : c = '*'
      · subst hc
        exact splitHead_star (fun more hmore => hne more rfl hmore) depth
      · exact congrArg (splitHead · rest) (if_neg hc)
    have hsplit : splitComment (c :: rest) = (c :: body', after') := by
      rw [splitComment, hr]
      exact hne
    rw [splitHead_cons rfl, hrest]
    cases h with
    | closed h =>
      obtain ⟨rfl, rfl⟩ := Prod.mk.inj (hsplit.symm.trans h)
      rw [ih (.closed hr)]
      rfl
    | unclosed h =>
      obtain ⟨rfl, rfl⟩ := Prod.mk.inj (hsplit.symm.trans h)
      rw [ih (.unclosed hr)]
      rfl

end StylesheetAssets.Stylesheet

namespace StylesheetAssets.Stylesheet.Bytewise

open Text (ByteReader find? byteLength)
open Text.ByteReader
open Source

/-! ### Blanks, strings and heads -/

section Heads

variable {text front rest : List Char}

theorem goes_passBlanks {blanks : List Char} (htext : front ++ (blanks ++ rest) = text)
    (hblanks : ∀ c ∈ blanks, Text.isAsciiBlank c = true)
    (hrest : rest.head?.any Text.isAsciiBlank = false) :
    Goes text (passBlanks text) (byteLength front) () (byteLength (front ++ blanks)) := by
  induction blanks generalizing front with
  | nil =>
    rw [passBlanks, List.append_nil]
    cases rest with
    | nil =>
      obtain rfl : front = text := by simpa using htext
      exact goes_peek_end.bind (goes_pure ())
    | cons c rest =>
      obtain ⟨d, hd, hat⟩ := Text.exists_byteAt (by simpa using htext)
      refine (goes_peek_of hat).bind ?_
      dsimp only
      rw [hd _ Text.isAscii_isAsciiBlank, if_neg (by simpa using hrest)]
      exact goes_pure ()
  | cons c blanks ih =>
    obtain ⟨hc, hmore⟩ := List.forall_mem_cons.1 hblanks
    have hascii := Text.isAscii_isAsciiBlank c hc
    rw [passBlanks]
    refine (goes_peek htext hascii).bind ?_
    dsimp only
    rw [if_pos hc]
    refine (goes_skip_char htext hascii).bind ?_
    have hbehind : front ++ [c] ++ (blanks ++ rest) = text := by simpa using htext
    have hblanks' := ih hbehind hmore
    rwa [List.append_assoc] at hblanks'

theorem overlooks_passString {q : Char} (hq : q.toNat < 128) :
    Overlooks text (passString text q) := by
  intro a j i b hb hle h
  rw [passString]
  refine (goes_peek_of (Text.byteAt_of_byte hb)).bind ((goes_skip_byte hb).bind ?_)
  dsimp only
  rw [if_neg (Text.charOf_ne hle (by decide)), if_neg (Text.charOf_ne hle hq)]
  exact h

/-- The rest of a string, which is passed, in front of what a head goes on with. -/
structure StringRest (text front rest : List Char) (q : Char) (body after : List Char) : Prop where
  append_eq : body ++ after = rest
  goes : Goes text (passString text q) (byteLength front) () (byteLength (front ++ body))
  splitHead_eq : ∀ depth, splitHead ⟨.string q, depth⟩ rest =
    (body ++ (splitHead ⟨.plain, depth⟩ after).1, (splitHead ⟨.plain, depth⟩ after).2)

section StringRest

variable {body after : List Char} {q : Char}

theorem stringRest_nil : StringRest text text [] q [] [] := by
  refine ⟨rfl, ?_, fun depth => rfl⟩
  rw [passString, List.append_nil]
  exact goes_peek_end.bind (goes_pure ())

theorem stringRest_quote (hq : q.toNat < 128) (hescape : q ≠ '\\')
    (htext : front ++ q :: rest = text) : StringRest text front (q :: rest) q [q] rest := by
  refine ⟨rfl, ?_, fun depth => ?_⟩
  · rw [passString]
    refine (goes_peek htext hq).bind ((goes_skip_char htext hq).bind ?_)
    dsimp only
    rw [if_neg hescape, if_pos rfl]
    exact goes_pure ()
  · have hstep : HeadState.step ⟨.string q, depth⟩ q = ⟨.plain, depth⟩ := by
      simp only [HeadState.step, if_neg hescape, if_pos]
    rw [splitHead_cons rfl, hstep]
    rfl

theorem StringRest.cons {c : Char} (h : StringRest text (front ++ [c]) rest q body after)
    (hq : q.toNat < 128) (hescape : c ≠ '\\') (hc : c ≠ q) (htext : front ++ c :: rest = text) :
    StringRest text front (c :: rest) q (c :: body) after := by
  have hgoes := h.goes
  rw [List.append_assoc] at hgoes
  refine ⟨by rw [List.cons_append, h.append_eq], ?_, fun depth => ?_⟩
  · rcases Nat.lt_or_ge c.toNat 128 with hlt | hge
    · rw [passString]
      refine (goes_peek htext hlt).bind ((goes_skip_char htext hlt).bind ?_)
      dsimp only
      rw [if_neg hescape, if_neg hc]
      exact hgoes
    · exact (overlooks_passString hq).character htext hge hgoes
  · have hstep : HeadState.step ⟨.string q, depth⟩ c = ⟨.string q, depth⟩ := by
      simp only [HeadState.step, if_neg hescape, if_neg hc]
    rw [splitHead_cons rfl, hstep, h.splitHead_eq]
    rfl

theorem goes_passString_escape {j : Nat} (hq : q.toNat < 128) (htext : front ++ '\\' :: rest = text)
    (hend : rest = [] → Goes text (passString text q) (byteLength (front ++ ['\\'])) () j)
    (hnext : ∀ c more, rest = c :: more →
      Goes text (passString text q) (byteLength (front ++ ['\\'] ++ [c])) () j) :
    Goes text (passString text q) (byteLength front) () j := by
  have hbehind : front ++ ['\\'] ++ rest = text := by simpa using htext
  rw [passString]
  refine (goes_peek htext (by decide)).bind ((goes_skip_char htext (by decide)).bind ?_)
  dsimp only
  rw [if_pos rfl]
  exact goes_cursor.bind
    ((goes_moveTo_min hbehind 1).bind ((overlooks_passString hq).escaped hbehind hend hnext))

theorem stringRest_backslash (hq : q.toNat < 128) (htext : front ++ ['\\'] = text) :
    StringRest text front ['\\'] q ['\\'] [] := by
  refine ⟨rfl, goes_passString_escape hq htext (fun _ => ?_) (by simp), fun depth => rfl⟩
  rw [htext, passString]
  exact goes_peek_end.bind (goes_pure ())

theorem StringRest.escape {c : Char}
    (h : StringRest text (front ++ ['\\'] ++ [c]) rest q body after) (hq : q.toNat < 128)
    (htext : front ++ '\\' :: c :: rest = text) :
    StringRest text front ('\\' :: c :: rest) q ('\\' :: c :: body) after := by
  refine ⟨by simp [h.append_eq], goes_passString_escape hq htext (by simp) ?_, fun depth => ?_⟩
  · rintro d more hmore
    cases hmore
    simpa using h.goes
  · have hstep : ((HeadState.mk (.string q) depth).step '\\').step c = ⟨.string q, depth⟩ := rfl
    rw [splitHead_cons rfl, splitHead_cons rfl, hstep, h.splitHead_eq]
    rfl

/-- Every string is passed. -/
theorem exists_stringRest (hq : q = '"' ∨ q = '\'') (htext : front ++ rest = text) :
    ∃ body after, StringRest text front rest q body after := by
  have hascii := Text.toNat_lt_of_quote hq
  have hbackslash : q ≠ '\\' := by rcases hq with rfl | rfl <;> decide
  -- An escape passes two characters, so the induction is on the length.
  induction hn : rest.length using Nat.strongRecOn generalizing front rest with
  | _ n ih =>
    subst hn
    cases rest with
    | nil =>
      obtain rfl : front = text := by simpa using htext
      exact ⟨[], [], stringRest_nil⟩
    | cons c rest =>
      have hbehind : front ++ [c] ++ rest = text := by simpa using htext
      by_cases hquote : c = q
      · subst hquote
        exact ⟨_, _, stringRest_quote hascii hbackslash htext⟩
      by_cases hescape : c = '\\'
      · subst hescape
        cases rest with
        | nil => exact ⟨_, _, stringRest_backslash hascii htext⟩
        | cons d rest =>
          obtain ⟨body, after, h⟩ := @ih rest.length (by grind) (front ++ ['\\'] ++ [d]) rest
            (by simpa using htext) rfl
          exact ⟨_, _, h.escape hascii htext⟩
      · obtain ⟨body, after, h⟩ := ih rest.length (by simp) hbehind rfl
        exact ⟨_, _, h.cons hascii hescape hquote htext⟩

end StringRest

theorem overlooks_passHead (depth : Nat) : Overlooks text (passHead text depth) := by
  intro a j i b hb hle h
  have hne (c : Char) (hc : c.toNat < 128) : Text.charOf b ≠ c := Text.charOf_ne hle hc
  rw [passHead]
  refine (goes_peek_of (Text.byteAt_of_byte hb)).bind ?_
  dsimp only
  rw [if_neg (by simp [hne]), if_neg (by simp [hne]), if_neg (by simp [hne]),
    if_neg (by simp [hne]), if_neg (by simp [hne]), if_neg (by simp [hne]),
    if_neg (by simp [hne]), if_neg (by simp [hne])]
  exact (goes_skip_byte hb).bind h

/-- A piece of a head without its end in it, and how many parentheses are open behind the piece. The
reader passes it, and it belongs to the head. -/
structure HeadPiece (text front rest : List Char) (depth : Nat) (piece after : List Char)
    (depth' : Nat) : Prop where
  append_eq : piece ++ after = rest
  ne_nil : piece ≠ []
  splitHead_eq : splitHead ⟨.plain, depth⟩ rest =
    (piece ++ (splitHead ⟨.plain, depth'⟩ after).1, (splitHead ⟨.plain, depth'⟩ after).2)
  goes : ∀ a j, Goes text (passHead text depth') (byteLength (front ++ piece)) a j →
    Goes text (passHead text depth) (byteLength front) a j

theorem exists_headPiece_quote {q : Char} (hq : q = '"' ∨ q = '\'') (depth : Nat)
    (htext : front ++ q :: rest = text) :
    ∃ piece after, HeadPiece text front (q :: rest) depth piece after depth := by
  have hascii := Text.toNat_lt_of_quote hq
  have hbehind : front ++ [q] ++ rest = text := by simpa using htext
  obtain ⟨body, after, rfl, hgoes, hhead⟩ := exists_stringRest hq hbehind
  refine ⟨q :: body, after, rfl, List.cons_ne_nil q body, ?_, fun a j h => ?_⟩
  · have hstops : HeadState.stops ⟨.plain, depth⟩ q = false := by
      rcases hq with rfl | rfl <;> simp [HeadState.stops]
    have hstep : HeadState.step ⟨.plain, depth⟩ q = ⟨.string q, depth⟩ := if_pos hq
    rw [splitHead_cons hstops, hstep, hhead]
    rfl
  · rw [passHead]
    refine (goes_peek htext hascii).bind ?_
    dsimp only
    rw [if_pos hq]
    refine (goes_skip_char htext hascii).bind (hgoes.bind ?_)
    rwa [List.append_assoc]

theorem exists_headPiece_escape (depth : Nat) (htext : front ++ '\\' :: rest = text) :
    ∃ piece after, HeadPiece text front ('\\' :: rest) depth piece after depth := by
  have hbehind : front ++ ['\\'] ++ rest = text := by simpa using htext
  have hescape {a : HeadEnd} {j : Nat} (hend : rest = [] →
        Goes text (passHead text depth) (byteLength (front ++ ['\\'])) a j)
      (hnext : ∀ e more, rest = e :: more →
        Goes text (passHead text depth) (byteLength (front ++ ['\\'] ++ [e])) a j) :
      Goes text (passHead text depth) (byteLength front) a j := by
    have hplace : byteLength front + 2 = byteLength (front ++ ['\\']) + 1 := by
      rw [Text.byteLength_concat (by decide)]
    rw [passHead]
    refine (goes_peek htext (by decide)).bind ?_
    dsimp only
    rw [if_neg (by decide), if_pos rfl]
    refine goes_cursor.bind ((goes_moveTo_min htext 2).bind ?_)
    rw [hplace]
    exact (overlooks_passHead depth).escaped hbehind hend hnext
  cases rest with
  | nil =>
    exact ⟨['\\'], [], rfl, by simp, by simp [splitHead, HeadState.stops],
      fun a j h => hescape (fun _ => h) (by simp)⟩
  | cons e rest =>
    refine ⟨['\\', e], rest, rfl, by simp, ?_, fun a j h => hescape (by simp) ?_⟩
    · have hstep : ((HeadState.mk .plain depth).step '\\').step e = ⟨.plain, depth⟩ := rfl
      rw [splitHead_cons (by simp [HeadState.stops]), splitHead_cons rfl, hstep]
      rfl
    · rintro d more hmore
      cases hmore
      simpa using h

theorem exists_headPiece_comment (depth : Nat) (htext : front ++ '/' :: '*' :: rest = text) :
    ∃ piece after, HeadPiece text front ('/' :: '*' :: rest) depth piece after depth := by
  obtain ⟨body, mark, after, hparts⟩ := CommentParts.exists_of rest
  have happend : '/' :: '*' :: (body ++ mark) ++ after = '/' :: '*' :: rest := by
    rw [← hparts.append_eq]
    simp
  refine ⟨'/' :: '*' :: (body ++ mark), after, happend, by simp, ?_, fun a j h => ?_⟩
  · have hstep : (HeadState.mk .plain depth).step '/' = ⟨.slash, depth⟩ := rfl
    have hstep' : HeadState.step ⟨.slash, depth⟩ '*' = ⟨.comment, depth⟩ := rfl
    rw [splitHead_cons (by simp [HeadState.stops]), hstep,
      splitHead_cons (by simp [HeadState.stops]), hstep', hparts.splitHead_eq]
    simp
  · have hbehind : front ++ '/' :: '*' :: (body ++ mark) ++ after = text := by
      rw [List.append_assoc, happend, htext]
    rw [passHead]
    refine (goes_peek htext (by decide)).bind ?_
    dsimp only
    rw [if_neg (by decide), if_neg (by decide), if_pos rfl]
    refine (goes_startsWith_comment htext).bind ?_
    rw [if_pos rfl]
    exact (goes_findCommentEnd hparts htext).bind ((goes_moveTo_behind hbehind).bind h)

theorem headPiece_slash (depth : Nat) (htext : front ++ '/' :: rest = text)
    (hrest : ∀ more, rest ≠ '*' :: more) :
    HeadPiece text front ('/' :: rest) depth ['/'] rest depth := by
  refine ⟨rfl, by simp, ?_, fun a j h => ?_⟩
  · have hstep : (HeadState.mk .plain depth).step '/' = ⟨.slash, depth⟩ := rfl
    rw [splitHead_cons (by simp [HeadState.stops]), hstep, splitHead_slash hrest]
    rfl
  · have hcomment : ∀ more, '/' :: rest ≠ '/' :: '*' :: more := fun more hmore =>
      hrest more (List.cons.inj hmore).2
    rw [passHead]
    refine (goes_peek htext (by decide)).bind ?_
    dsimp only
    rw [if_neg (by decide), if_neg (by decide), if_pos rfl]
    refine (goes_startsWith_other htext hcomment).bind ?_
    rw [if_neg (by simp)]
    exact (goes_skip_char htext (by decide)).bind h

/-- A character that is passed alone. -/
theorem headPiece_single {c : Char} {depth depth' : Nat} (htext : front ++ c :: rest = text)
    (hstops : HeadState.stops ⟨.plain, depth⟩ c = false)
    (hstep : HeadState.step ⟨.plain, depth⟩ c = ⟨.plain, depth'⟩)
    (hlong : 128 ≤ c.toNat → depth' = depth)
    (hread : c.toNat < 128 → ∀ a j,
      Goes text (skip 1 >>= fun _ => passHead text depth') (byteLength front) a j →
        Goes text (passHead text depth) (byteLength front) a j) :
    HeadPiece text front (c :: rest) depth [c] rest depth' := by
  refine ⟨rfl, by simp, by rw [splitHead_cons hstops, hstep]; rfl, fun a j h => ?_⟩
  rcases Nat.lt_or_ge c.toNat 128 with hlt | hge
  · exact hread hlt a j ((goes_skip_char htext hlt).bind h)
  · obtain rfl := hlong hge
    exact (overlooks_passHead depth').character htext hge h

/-- A head that does not end here goes on with some piece. -/
theorem exists_headPiece {c : Char} {depth : Nat} (htext : front ++ c :: rest = text)
    (hstops : HeadState.stops ⟨.plain, depth⟩ c = false) :
    ∃ piece after depth', HeadPiece text front (c :: rest) depth piece after depth' := by
  by_cases hquote : c = '"' ∨ c = '\''
  · obtain ⟨piece, after, h⟩ := exists_headPiece_quote hquote depth htext
    exact ⟨piece, after, depth, h⟩
  by_cases hescape : c = '\\'
  · subst hescape
    obtain ⟨piece, after, h⟩ := exists_headPiece_escape depth htext
    exact ⟨piece, after, depth, h⟩
  by_cases hslash : c = '/'
  · subst hslash
    by_cases hcomment : ∃ more, rest = '*' :: more
    · obtain ⟨more, rfl⟩ := hcomment
      obtain ⟨piece, after, h⟩ := exists_headPiece_comment depth htext
      exact ⟨piece, after, depth, h⟩
    · have hrest : ∀ more, rest ≠ '*' :: more := fun more hmore => hcomment ⟨more, hmore⟩
      exact ⟨_, _, _, headPiece_slash depth htext hrest⟩
  by_cases hopen : c = '('
  · subst hopen
    refine ⟨_, _, _, headPiece_single htext hstops rfl (absurd · (by decide)) fun hlt a j h => ?_⟩
    rw [passHead]
    refine (goes_peek htext hlt).bind ?_
    dsimp only
    rwa [if_neg hquote, if_neg hescape, if_neg hslash, if_pos rfl]
  by_cases hclose : c = ')'
  · subst hclose
    refine ⟨_, _, _, headPiece_single htext hstops rfl (absurd · (by decide)) fun hlt a j h => ?_⟩
    rw [passHead]
    refine (goes_peek htext hlt).bind ?_
    dsimp only
    rwa [if_neg hquote, if_neg hescape, if_neg hslash, if_neg hopen, if_pos rfl]
  have hstep : HeadState.step ⟨.plain, depth⟩ c = ⟨.plain, depth⟩ := by
    simp only [HeadState.step, HeadState.stepPlain, if_neg hquote, if_neg hescape, if_neg hslash,
      if_neg hopen, if_neg hclose]
  refine ⟨_, _, _, headPiece_single htext hstops hstep (fun _ => rfl) fun hlt a j h => ?_⟩
  have hgoesOn (d : Char) (hd : d = '{' ∨ d = ';' ∨ d = '}') : ¬(c = d ∧ depth = 0) := by
    rintro ⟨rfl, rfl⟩
    rcases hd with rfl | rfl | rfl <;> cases hstops
  rw [passHead]
  refine (goes_peek htext hlt).bind ?_
  dsimp only
  rwa [if_neg hquote, if_neg hescape, if_neg hslash, if_neg hopen, if_neg hclose,
    if_neg (hgoesOn _ (by simp)), if_neg (hgoesOn _ (by simp)), if_neg (hgoesOn _ (by simp))]

/-- What ends a head in front of a text. -/
def HeadEnd.before : List Char → HeadEnd
  | '{' :: _ => .block
  | ';' :: _ => .semicolon
  | '}' :: _ => .close
  | _ => .endOfText

/-- A head is passed up to where it is split off. -/
theorem goes_passHead (depth : Nat) (htext : front ++ rest = text) :
    Goes text (passHead text depth) (byteLength front)
      (.before (splitHead ⟨.plain, depth⟩ rest).2)
      (byteLength (front ++ (splitHead ⟨.plain, depth⟩ rest).1)) := by
  induction hn : rest.length using Nat.strongRecOn generalizing front rest depth with
  | _ n ih =>
    subst hn
    cases rest with
    | nil =>
      obtain rfl : front = text := by simpa using htext
      rw [passHead, splitHead, List.append_nil]
      exact goes_peek_end.bind (goes_pure _)
    | cons c rest =>
      by_cases hstops : HeadState.stops ⟨.plain, depth⟩ c = true
      · have hrest := HeadState.atRest_of_stops hstops
        obtain rfl : depth = 0 := hrest.depth
        rw [splitHead, if_pos hstops, List.append_nil, passHead]
        rcases (hrest.stops_iff c).1 hstops with rfl | rfl | rfl
        all_goals
          refine (goes_peek htext (by decide)).bind ?_
          exact goes_pure _
      · obtain ⟨piece, after, depth', happend, hne, hhead, hgoes⟩ :=
          exists_headPiece htext (Bool.eq_false_iff.2 hstops)
        have hpos := List.length_pos_iff.2 hne
        have hlen := congrArg List.length happend
        rw [List.length_append] at hlen
        have hbehind : front ++ piece ++ after = text := by
          rw [List.append_assoc, happend, htext]
        have hafter := ih after.length (by omega) depth' hbehind rfl
        rw [hhead]
        rw [List.append_assoc] at hafter
        exact hgoes _ _ hafter

end Heads

end StylesheetAssets.Stylesheet.Bytewise
