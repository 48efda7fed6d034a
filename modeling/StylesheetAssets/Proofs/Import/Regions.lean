import StylesheetAssets.Import.Statement

/-!
Comments and strings from left to right: whether a place is opaque is known from the text in front
of it, by a fold over its characters.
-/
namespace StylesheetAssets.Import

open Stylesheet (splitComment length_of_splitComment)

/-- Where a place of a text lies. -/
inductive Region where
  | outside
  /-- Behind a slash, which may turn out to open a comment. -/
  | slash
  | comment
  /-- In a comment, behind a star. -/
  | star
  | string (quote : Char)
  /-- In a string, behind a backslash. -/
  | escaped (quote : Char)
deriving DecidableEq, Repr

namespace Region

def stepOutside (c : Char) : Region :=
  if c = '/' then .slash else if c = '"' ∨ c = '\'' then .string c else .outside

/-- Where the place behind one more character lies. -/
def step (r : Region) (c : Char) : Region :=
  match r with
  | outside => stepOutside c
  | slash => if c = '*' then comment else stepOutside c
  | comment => if c = '*' then star else comment
  | star => if c = '/' then outside else if c = '*' then star else comment
  | string q => if c = '\\' then escaped q else if c = q ∨ c = '\n' then outside else string q
  | escaped q => string q

/-- Where the place behind a text lies. -/
def after (r : Region) (s : List Char) : Region := s.foldl step r

/-- In a comment or a string. -/
def inside : Region → Bool
  | outside | slash => false
  | _ => true

@[simp] theorem after_nil (r : Region) : r.after [] = r := rfl

@[simp] theorem after_cons (r : Region) (c : Char) (s : List Char) :
    r.after (c :: s) = (r.step c).after s := rfl

theorem after_append (r : Region) (s t : List Char) : r.after (s ++ t) = (r.after s).after t :=
  List.foldl_append

theorem step_of_not_inside {r : Region} (h : r.inside = false) {c : Char} (hc : c ≠ '*') :
    r.step c = stepOutside c := by
  cases r <;> simp_all [inside, step]

/-- A slash that opens no comment means nothing. -/
theorem inside_after_slash {s : List Char} (h : ∀ more, s ≠ '*' :: more) :
    (slash.after s).inside = (outside.after s).inside := by
  cases s with
  | nil => rfl
  | cons c s =>
    have hc : c ≠ '*' := fun hc => h s (by rw [hc])
    rw [after_cons, after_cons, step_of_not_inside rfl hc, step_of_not_inside rfl hc]

/-- A star that ends no comment means nothing. -/
theorem after_star {s : List Char} (h : ∀ more, s ≠ '/' :: more) (hne : s ≠ []) :
    star.after s = comment.after s := by
  cases s with
  | nil => exact absurd rfl hne
  | cons c s =>
    have hc : c ≠ '/' := fun hc => h s (by rw [hc])
    rw [after_cons, after_cons]
    simp only [step, if_neg hc]

end Region

open Region

/-! ### Comments and strings in front of a place -/

/-- A comment in front of an at sign ends in front of it, or holds it. -/
theorem splitComment_append_at (a r : List Char) :
    (∃ body rest, a = body ++ '*' :: '/' :: rest ∧
      Region.comment.after (body ++ ['*', '/']) = outside ∧
      splitComment (a ++ '@' :: r) = (body, some (rest ++ '@' :: r))) ∨
    ((Region.comment.after a).inside = true ∧
      ∃ more, (splitComment (a ++ '@' :: r)).1 = a ++ '@' :: more) := by
  fun_induction splitComment a with
  | case1 rest => exact .inl ⟨[], rest, rfl, rfl, rfl⟩
  | case2 =>
    refine .inr ⟨rfl, (splitComment r).1, ?_⟩
    rw [List.nil_append, splitComment]
    · rfl
    · simp
  | case3 c rest hne body after hr ih =>
    have hsplit : splitComment (c :: rest ++ '@' :: r) =
        (c :: (splitComment (rest ++ '@' :: r)).1, (splitComment (rest ++ '@' :: r)).2) := by
      rw [List.cons_append, splitComment]
      rintro more rfl hmore
      cases rest with
      | nil => cases hmore
      | cons d rest => exact hne rest rfl (by rw [(List.cons.inj hmore).1])
    rw [hsplit, after_cons]
    rcases ih with ⟨body, rest', hrest, hafter, hread⟩ | ⟨hinside, more, hread⟩
    · refine .inl ⟨c :: body, rest', by rw [hrest, List.cons_append], ?_, by rw [hread]⟩
      rw [List.cons_append, after_cons]
      by_cases hc : c = '*'
      · subst hc
        rw [step, if_pos rfl, after_star _ (by simp), hafter]
        rintro more hmore
        cases body with
        | nil => cases hmore
        | cons d body =>
          obtain ⟨rfl, -⟩ := List.cons.inj hmore
          exact hne _ rfl hrest
      · rw [step, if_neg hc, hafter]
    · refine .inr ⟨?_, more, by rw [hread, List.cons_append]⟩
      by_cases hc : c = '*'
      · subst hc
        rw [step, if_pos rfl]
        cases rest with
        | nil => rfl
        | cons d rest =>
          have hd : ∀ more, d :: rest ≠ '/' :: more := fun more hmore => hne more rfl hmore
          rwa [after_star hd (List.cons_ne_nil d rest)]
      · rwa [step, if_neg hc]

theorem splitLineString_cons {q c : Char} {rest : List Char}
    (h : ∀ d more, c = '\\' → rest ≠ d :: more) (hend : ¬(c = q ∨ c = '\n')) :
    splitLineString q (c :: rest) =
      (c :: (splitLineString q rest).1, (splitLineString q rest).2) := by
  rw [splitLineString, if_neg hend]
  intro d more hc hrest
  exact h d more hc hrest

theorem splitLineString_escape (q c : Char) (rest : List Char) :
    splitLineString q ('\\' :: c :: rest) =
      ('\\' :: c :: (splitLineString q rest).1, (splitLineString q rest).2) := by
  rw [splitLineString]

/-- A string in front of an at sign ends in front of it, or holds it. -/
theorem splitLineString_append_at {q : Char} (hq : q = '"' ∨ q = '\'') (a r : List Char) :
    (∃ body rest, a = body ++ rest ∧ (string q).after body = outside ∧
      splitLineString q (a ++ '@' :: r) = (body, rest ++ '@' :: r)) ∨
    (((string q).after a).inside = true ∧
      ∃ more, (splitLineString q (a ++ '@' :: r)).1 = a ++ '@' :: more) := by
  fun_induction splitLineString q a with
  | case1 =>
    refine .inr ⟨rfl, (splitLineString q r).1, ?_⟩
    have hend : ¬('@' = q ∨ '@' = '\n') := by rcases hq with rfl | rfl <;> decide
    rw [List.nil_append, splitLineString_cons (by simp) hend]
    rfl
  | case2 c rest body after hr ih =>
    have hstep : (string q).after ('\\' :: c :: rest) = (string q).after rest := rfl
    rw [hstep, List.cons_append, List.cons_append, splitLineString_escape]
    rcases ih with ⟨body, rest', hrest, hafter, hread⟩ | ⟨hinside, more, hread⟩
    · refine .inl ⟨'\\' :: c :: body, rest', by rw [hrest]; rfl, hafter, ?_⟩
      rw [hread]
    · exact .inr ⟨hinside, more, by rw [hread]; rfl⟩
  | case3 c rest hne hend =>
    refine .inl ⟨[c], rest, rfl, ?_, ?_⟩
    · have hc : c ≠ '\\' := by rcases hq with rfl | rfl <;> rcases hend with rfl | rfl <;> decide
      rw [after_cons, step, if_neg hc, if_pos hend, after_nil]
    · have hc : ∀ d more, c = '\\' → rest ++ '@' :: r ≠ d :: more := by
        rintro d more rfl
        rcases hq with rfl | rfl <;> simp at hend
      rw [List.cons_append, splitLineString, if_pos hend]
      intro d more hbackslash hmore
      exact hc d more hbackslash hmore
  | case4 c rest hne hend body after hr ih =>
    by_cases hc : c = '\\'
    · subst hc
      cases rest with
      | nil =>
        refine .inr ⟨rfl, (splitLineString q r).1, ?_⟩
        rw [List.cons_append, List.nil_append, splitLineString_escape]
        rfl
      | cons d rest => exact absurd rfl (hne d rest rfl)
    · have hstep : (string q).after (c :: rest) = (string q).after rest := by
        rw [after_cons, step, if_neg hc, if_neg hend]
      rw [hstep, List.cons_append, splitLineString_cons (fun d more h => absurd h hc) hend]
      rcases ih with ⟨body, rest', hrest, hafter, hread⟩ | ⟨hinside, more, hread⟩
      · refine .inl ⟨c :: body, rest', by rw [hrest, List.cons_append], ?_, by rw [hread]⟩
        rw [after_cons, step, if_neg hc, if_neg hend, hafter]
      · exact .inr ⟨hinside, more, by rw [hread]; rfl⟩

/-! ### Opaque places -/

theorem isOpaque_cons_of_stop_le {span : Span} {offset : Nat} (h : span.stop ≤ offset)
    (spans : List Span) : isOpaque (span :: spans) offset = isOpaque spans offset := by
  simp only [isOpaque, List.dropWhile_cons, h, decide_true, if_true]

theorem isOpaque_cons_of_lt_stop {span : Span} {offset : Nat} (h : offset < span.stop)
    (spans : List Span) : isOpaque (span :: spans) offset = decide (span.start ≤ offset) := by
  have hkeep : ¬span.stop ≤ offset := Nat.not_le.2 h
  simp [isOpaque, hkeep, Span.contains, h]

theorem isOpaque_eq_false {spans : List Span} {offset : Nat}
    (h : ∀ span ∈ spans, offset < span.start) : isOpaque spans offset = false := by
  induction spans with
  | nil => rfl
  | cons span spans ih =>
    rw [List.forall_mem_cons] at h
    by_cases hstop : span.stop ≤ offset
    · rw [isOpaque_cons_of_stop_le hstop, ih h.2]
    · rw [isOpaque_cons_of_lt_stop (Nat.lt_of_not_le hstop), decide_eq_false (Nat.not_le.2 h.1)]

theorem opaqueSpans_comment {rest body after : List Char} (offset : Nat)
    (h : splitComment rest = (body, some after)) :
    opaqueSpans offset ('/' :: '*' :: rest) =
      ⟨offset, offset + Text.byteLength body + 4⟩ ::
        opaqueSpans (offset + Text.byteLength body + 4) after := by
  rw [opaqueSpans]
  split
  · next b a hb =>
    rw [h] at hb
    cases hb
    rfl
  · next b hb =>
    rw [h] at hb
    cases hb

theorem opaqueSpans_open_comment {rest body : List Char} (offset : Nat)
    (h : splitComment rest = (body, none)) :
    opaqueSpans offset ('/' :: '*' :: rest) = [⟨offset, offset + Text.byteLength body + 2⟩] := by
  rw [opaqueSpans]
  split
  · next b a hb =>
    rw [h] at hb
    cases hb
  · next b hb =>
    rw [h] at hb
    cases hb
    rfl

theorem opaqueSpans_string {q : Char} (hq : q = '"' ∨ q = '\'') (offset : Nat)
    (rest : List Char) :
    opaqueSpans offset (q :: rest) =
      ⟨offset, offset + 1 + Text.byteLength (splitLineString q rest).1⟩ ::
        opaqueSpans (offset + 1 + Text.byteLength (splitLineString q rest).1)
          (splitLineString q rest).2 := by
  rw [opaqueSpans, if_pos hq]
  rintro more rfl
  rcases hq with hq | hq <;> cases hq

theorem opaqueSpans_other {c : Char} {rest : List Char} (hc : ¬(c = '"' ∨ c = '\''))
    (hcomment : ∀ more, c :: rest ≠ '/' :: '*' :: more) (offset : Nat) :
    opaqueSpans offset (c :: rest) = opaqueSpans (offset + c.utf8Size) rest := by
  rw [opaqueSpans, if_neg hc]
  rintro more rfl rfl
  exact hcomment more rfl

/-- The spans of a text lie in it. -/
theorem le_start_of_mem_opaqueSpans {offset : Nat} {s : List Char} :
    ∀ span ∈ opaqueSpans offset s, offset ≤ span.start := by
  fun_induction opaqueSpans offset s with
  | case1 => simp
  | case2 offset rest body after h _ stop ih =>
    rw [List.forall_mem_cons]
    refine ⟨Nat.le_refl offset, ?_⟩
    intro span hspan
    have hle := ih span hspan
    omega
  | case3 offset rest body h => simp
  | case4 offset c rest _ hc _ stop ih =>
    rw [List.forall_mem_cons]
    refine ⟨Nat.le_refl offset, ?_⟩
    intro span hspan
    have hle := ih span hspan
    omega
  | case5 offset c rest _ hc ih =>
    intro span hspan
    have hle := ih span hspan
    omega

/-- The spans of a text tell of the at sign behind `a` what the region there tells. -/
def SpansAgree (a r : List Char) : Prop :=
  ∀ offset, isOpaque (opaqueSpans offset (a ++ '@' :: r)) (offset + Text.byteLength a) =
    (outside.after a).inside

theorem spansAgree_nil (r : List Char) : SpansAgree [] r := by
  intro offset
  have hat : Char.utf8Size '@' = 1 := rfl
  rw [List.nil_append, opaqueSpans_other (by decide) (by simp)]
  apply isOpaque_eq_false
  intro span hspan
  have hle := le_start_of_mem_opaqueSpans span hspan
  simp only [Text.byteLength_nil]
  omega

theorem spansAgree_comment {a r : List Char}
    (ih : ∀ rest : List Char, rest.length < a.length → SpansAgree rest r) :
    SpansAgree ('/' :: '*' :: a) r := by
  intro offset
  have hslash : Char.utf8Size '/' = 1 := rfl
  have hstar : Char.utf8Size '*' = 1 := rfl
  have hafter : outside.after ('/' :: '*' :: a) = Region.comment.after a := rfl
  rw [hafter, List.cons_append, List.cons_append]
  rcases splitComment_append_at a r with ⟨body, rest, ha, hbody, hread⟩ | ⟨hinside, more, hread⟩
  · have hlength := congrArg List.length ha
    have hbytes := congrArg Text.byteLength ha
    simp only [List.length_append, List.length_cons, Text.byteLength_append,
      Text.byteLength_cons] at hlength hbytes
    have hplace : offset + Text.byteLength ('/' :: '*' :: a) =
        offset + Text.byteLength body + 4 + Text.byteLength rest := by
      simp only [Text.byteLength_cons]
      omega
    have hrest : Region.comment.after a = outside.after rest := by
      rw [ha, ← hbody, ← after_append, List.append_assoc]
      rfl
    rw [opaqueSpans_comment offset hread, hplace, isOpaque_cons_of_stop_le (Nat.le_add_right _ _),
      hrest]
    exact ih rest (by omega) _
  · have hbytes := congrArg Text.byteLength hread
    simp only [Text.byteLength_append, Text.byteLength_cons] at hbytes
    have hplace : offset + Text.byteLength ('/' :: '*' :: a) <
        offset + Text.byteLength (splitComment (a ++ '@' :: r)).1 + 2 := by
      have hat : Char.utf8Size '@' = 1 := rfl
      simp only [Text.byteLength_cons]
      omega
    rw [hinside]
    cases hsplit : splitComment (a ++ '@' :: r) with
    | mk body after? =>
      rw [hsplit] at hplace
      cases after? with
      | none =>
        rw [opaqueSpans_open_comment offset hsplit, isOpaque_cons_of_lt_stop hplace]
        exact decide_eq_true (Nat.le_add_right _ _)
      | some after =>
        rw [opaqueSpans_comment offset hsplit,
          isOpaque_cons_of_lt_stop (Nat.lt_of_lt_of_le hplace (by simp))]
        exact decide_eq_true (Nat.le_add_right _ _)

theorem spansAgree_string {q : Char} (hq : q = '"' ∨ q = '\'') {a r : List Char}
    (ih : ∀ rest : List Char, rest.length ≤ a.length → SpansAgree rest r) :
    SpansAgree (q :: a) r := by
  intro offset
  have hsize : q.utf8Size = 1 := by rcases hq with rfl | rfl <;> rfl
  have hafter : outside.after (q :: a) = (string q).after a := by
    rcases hq with rfl | rfl <;> rfl
  rw [hafter, List.cons_append, opaqueSpans_string hq]
  rcases splitLineString_append_at hq a r with
    ⟨body, rest, ha, hbody, hread⟩ | ⟨hinside, more, hread⟩
  · have hlength := congrArg List.length ha
    have hbytes := congrArg Text.byteLength ha
    simp only [List.length_append, Text.byteLength_append] at hlength hbytes
    have hplace : offset + Text.byteLength (q :: a) =
        offset + 1 + Text.byteLength body + Text.byteLength rest := by
      simp only [Text.byteLength_cons]
      omega
    have hrest : (string q).after a = outside.after rest := by
      rw [ha, ← hbody, ← after_append]
    rw [hread, hplace, isOpaque_cons_of_stop_le (Nat.le_add_right _ _), hrest]
    exact ih rest (by omega) _
  · have hat : Char.utf8Size '@' = 1 := rfl
    have hbytes := congrArg Text.byteLength hread
    simp only [Text.byteLength_append, Text.byteLength_cons] at hbytes
    rw [hinside, isOpaque_cons_of_lt_stop]
    · exact decide_eq_true (Nat.le_add_right _ _)
    · simp only [Text.byteLength_cons]
      omega

theorem spansAgree_other {c : Char} (hc : ¬(c = '"' ∨ c = '\'')) {a r : List Char}
    (hcomment : ∀ more, c :: a ≠ '/' :: '*' :: more) (ih : SpansAgree a r) :
    SpansAgree (c :: a) r := by
  intro offset
  have hinside : (outside.after (c :: a)).inside = (outside.after a).inside := by
    rw [after_cons, step, stepOutside, if_neg hc]
    split
    · next hslash =>
      exact inside_after_slash fun more hmore => hcomment more (by rw [hslash, hmore])
    · rfl
  have hcommentAt : ∀ more, c :: (a ++ '@' :: r) ≠ '/' :: '*' :: more := by
    intro more hmore
    cases a with
    | nil => cases hmore
    | cons d a =>
      simp only [List.cons_append, List.cons.injEq] at hmore
      obtain ⟨rfl, rfl, -⟩ := hmore
      exact hcomment a rfl
  rw [List.cons_append, opaqueSpans_other hc hcommentAt, hinside, Text.byteLength_cons,
    ← Nat.add_assoc]
  exact ih _

/-- Whether an at sign is opaque is known from the region behind the text in front of it. -/
theorem spansAgree (a r : List Char) : SpansAgree a r := by
  induction hn : a.length using Nat.strongRecOn generalizing a with
  | _ n ih =>
    subst hn
    cases a with
    | nil => exact spansAgree_nil r
    | cons c a =>
      by_cases hcomment : ∃ more, c :: a = '/' :: '*' :: more
      · obtain ⟨more, hmore⟩ := hcomment
        rw [hmore] at ih ⊢
        refine spansAgree_comment fun rest hrest => ih rest.length ?_ rest rfl
        simp only [List.length_cons]
        omega
      · by_cases hquote : c = '"' ∨ c = '\''
        · refine spansAgree_string hquote fun rest hrest => ih rest.length ?_ rest rfl
          simp only [List.length_cons]
          omega
        · have hcomment : ∀ more, c :: a ≠ '/' :: '*' :: more := fun more hmore =>
            hcomment ⟨more, hmore⟩
          exact spansAgree_other hquote hcomment (ih a.length (by simp) a rfl)

/-! ### Live pieces -/

/-- Turns the statements that start in a comment or a string into plain text, from a region on. -/
def quietFrom (r : Region) : List Piece → List Piece
  | [] => []
  | .char c :: rest => .char c :: quietFrom (r.step c) rest
  | .statement i :: rest =>
    (if r.inside then i.text.map .char else [.statement i]) ++ quietFrom (r.after i.text) rest

theorem quietFrom_map_char (r : Region) (s : List Char) (ps : List Piece) :
    quietFrom r (s.map .char ++ ps) = s.map .char ++ quietFrom (r.after s) ps := by
  induction s generalizing r with
  | nil => rfl
  | cons c s ih => simp only [List.map_cons, List.cons_append, quietFrom, ih, after_cons]

/-- Every statement among the pieces starts with an at sign. -/
def StartAt (ps : List Piece) : Prop := ∀ i, Piece.statement i ∈ ps → ∃ t, i.text = '@' :: t

/-- Spans of the whole text and regions from left to right make the same statements plain text. -/
theorem quietPieces_eq_quietFrom {ps : List Piece} (h : StartAt ps) (front : List Char) :
    quietPieces (opaqueSpans 0 (front ++ ps.flatMap Piece.text)) (Text.byteLength front) ps =
      quietFrom (outside.after front) ps := by
  induction ps generalizing front with
  | nil => rfl
  | cons p ps ih =>
    have hps : StartAt ps := fun i hi => h i (List.mem_cons_of_mem p hi)
    have hrest := ih hps (front ++ p.text)
    rw [List.append_assoc, Text.byteLength_append, after_append] at hrest
    rw [List.flatMap_cons]
    cases p with
    | char c =>
      simp only [quietPieces, quietFrom]
      congr 1
    | statement i =>
      obtain ⟨t, ht⟩ := h i List.mem_cons_self
      have hagree := spansAgree front (t ++ ps.flatMap Piece.text) 0
      rw [Nat.zero_add, ← List.cons_append, ← ht] at hagree
      have hplace : isOpaque (opaqueSpans 0 (front ++ ((Piece.statement i).text ++
          ps.flatMap Piece.text))) (Text.byteLength front) = (outside.after front).inside := hagree
      rw [quietPieces, quietFrom, hplace]
      congr 1

end StylesheetAssets.Import
