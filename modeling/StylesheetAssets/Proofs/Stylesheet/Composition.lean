import StylesheetAssets.Stylesheet.Tree

/-!
Texts that can be put in front of any other text: the nodes of both together are those of the
first, followed by those of the second.
-/
namespace StylesheetAssets.Stylesheet

/-! ### Where a comment ends -/

/-- A text that does not hold the end of a comment is read over, if it does not form one together
with what follows. -/
theorem splitComment_append_of_noEnd {front : List Char} (h : ¬['*', '/'] <:+: front)
    (rest : List Char) (hjoin : front.getLast? = some '*' → rest.head? ≠ some '/') :
    splitComment (front ++ rest) = (front ++ (splitComment rest).1, (splitComment rest).2) := by
  induction front with
  | nil => rfl
  | cons c front ih =>
    have hfront : ¬['*', '/'] <:+: front := fun hfront =>
      h (hfront.trans (List.suffix_cons c front).isInfix)
    have hjoin' : front.getLast? = some '*' → rest.head? ≠ some '/' := by
      cases front with
      | nil => nofun
      | cons d front => rwa [List.getLast?_cons_cons] at hjoin
    rw [List.cons_append, splitComment, ih hfront hjoin']
    · rfl
    rintro more rfl hmore
    cases front with
    | nil => exact hjoin rfl (congrArg List.head? hmore)
    | cons d front =>
      obtain ⟨rfl, -⟩ := List.cons.inj hmore
      exact h ⟨[], front, rfl⟩

/-- A comment ends at its first `*/`. -/
theorem splitComment_of_not_isInfix {text : List Char} (h : ¬['*', '/'] <:+: text)
    (rest : List Char) : splitComment (text ++ '*' :: '/' :: rest) = (text, some rest) := by
  rw [splitComment_append_of_noEnd h _ (by simp), splitComment, List.append_nil]

/-- The body of a comment does not hold its end. Behind the body there is the end, or nothing. -/
theorem splitComment_spec (s : List Char) :
    s = (splitComment s).1 ++ (splitComment s).2.elim [] ('*' :: '/' :: ·) ∧
      ¬['*', '/'] <:+: (splitComment s).1 := by
  fun_induction splitComment s with
  | case1 rest => exact ⟨rfl, by simp⟩
  | case2 => exact ⟨rfl, by simp⟩
  | case3 c rest hne body after hr ih =>
    rw [hr] at ih
    obtain ⟨hrest, hbody⟩ := ih
    refine ⟨congrArg (c :: ·) hrest, fun hinfix => ?_⟩
    rcases List.infix_cons_iff.1 hinfix with hfront | hinside
    · obtain ⟨rfl, more, rfl⟩ := List.cons_prefix_cons.1 hfront
      exact hne _ rfl hrest
    · exact hbody hinside

theorem splitComment_eq_some_iff {s body after : List Char} :
    splitComment s = (body, some after) ↔
      s = body ++ '*' :: '/' :: after ∧ ¬['*', '/'] <:+: body := by
  constructor
  · intro h
    have hspec := splitComment_spec s
    rwa [h] at hspec
  · rintro ⟨rfl, h⟩
    exact splitComment_of_not_isInfix h after

theorem splitComment_eq_none_iff {s body : List Char} :
    splitComment s = (body, none) ↔ s = body ∧ ¬['*', '/'] <:+: body := by
  constructor
  · intro h
    have hspec := splitComment_spec s
    rw [h] at hspec
    exact ⟨hspec.1.trans body.append_nil, hspec.2⟩
  · rintro ⟨rfl, h⟩
    have hwhole := splitComment_append_of_noEnd h [] (by simp)
    rwa [List.append_nil, splitComment, List.append_nil] at hwhole

theorem append_of_splitComment {s body after : List Char}
    (h : splitComment s = (body, some after)) : body ++ '*' :: '/' :: after = s :=
  (splitComment_eq_some_iff.1 h).1.symm

theorem eq_of_splitComment {s body : List Char} (h : splitComment s = (body, none)) : body = s :=
  (splitComment_eq_none_iff.1 h).1.symm

theorem splitComment_append {s body after : List Char} (h : splitComment s = (body, some after))
    (t : List Char) : splitComment (s ++ t) = (body, some (after ++ t)) := by
  obtain ⟨rfl, hbody⟩ := splitComment_eq_some_iff.1 h
  rw [List.append_assoc]
  exact splitComment_of_not_isInfix hbody (after ++ t)

/-! ### Scans of texts that are put together -/

theorem splitHead_append_right {s : HeadState} {cs : List Char} (h : (splitHead s cs).2 ≠ [])
    (t : List Char) : splitHead s (cs ++ t) = ((splitHead s cs).1, (splitHead s cs).2 ++ t) := by
  induction cs generalizing s with
  | nil => exact absurd rfl h
  | cons c rest ih =>
    rw [List.cons_append]
    unfold splitHead at h ⊢
    by_cases hstop : s.stops c = true
    · simp only [if_pos hstop, List.cons_append]
    · simp only [if_neg hstop] at h ⊢
      rw [ih h]

theorem scanHead_append {cs : List Char} (h : (splitHead {} cs).2 ≠ []) (t : List Char) :
    scanHead (cs ++ t) = ((scanHead cs).1, (scanHead cs).2 ++ t) := by
  unfold scanHead
  rw [splitHead_append_right h]
  cases hs : splitHead {} cs with
  | mk head rest =>
    rw [hs] at h
    cases rest with
    | nil => exact absurd rfl h
    | cons c rest =>
      by_cases hopen : c = '{'
      · subst hopen
        rfl
      · by_cases hsemi : c = ';'
        · subst hsemi
          rfl
        · simp [hopen, hsemi]

/-- No token of the text runs up to its end: comments are closed, and heads are followed by a brace
or a semicolon. -/
inductive Whole : List Char → Prop
  | nil : Whole []
  | comment {rest body after : List Char} (h : splitComment rest = (body, some after))
      (hafter : Whole after) : Whole ('/' :: '*' :: rest)
  | skipped {c : Char} {rest : List Char} (h : Text.isAsciiBlank c ∨ c = ';') (hrest : Whole rest) :
      Whole (c :: rest)
  | closing {rest : List Char} (hrest : Whole rest) : Whole ('}' :: rest)
  | head {c : Char} {rest : List Char} (hc : ¬(Text.isAsciiBlank c ∨ c = ';') ∧ c ≠ '}')
      (hcomment : ∀ more, c :: rest ≠ '/' :: '*' :: more)
      (hended : (splitHead {} (c :: rest)).2 ≠ [])
      (hrest : Whole (scanHead (c :: rest)).2) : Whole (c :: rest)

theorem scan_nil : Token.scan [] = [] := by rw [Token.scan]

theorem scan_comment {rest body after : List Char} (h : splitComment rest = (body, some after)) :
    Token.scan ('/' :: '*' :: rest) = .comment (Text.trim body) :: Token.scan after := by
  rw [Token.scan]
  split
  · next b a hb =>
    rw [h] at hb
    cases hb
    rfl
  · next b hb =>
    rw [h] at hb
    cases hb

theorem scan_open_comment {rest body : List Char} (h : splitComment rest = (body, none)) :
    Token.scan ('/' :: '*' :: rest) = [.comment (Text.trim body)] := by
  rw [Token.scan]
  split
  · next hb =>
    rw [h] at hb
    cases hb
  · next hb =>
    rw [h] at hb
    cases hb
    rfl

theorem scan_cons {c : Char} {rest : List Char}
    (hcomment : ∀ more, c :: rest ≠ '/' :: '*' :: more) :
    Token.scan (c :: rest) =
      if Text.isAsciiBlank c ∨ c = ';' then Token.scan rest
      else if c = '}' then .closing :: Token.scan rest
      else (scanHead (c :: rest)).1 :: Token.scan (scanHead (c :: rest)).2 := by
  rw [Token.scan]
  · simp only [Bool.or_eq_true, decide_eq_true_eq, dite_eq_ite]
  · rintro more rfl rfl
    exact hcomment more rfl

theorem scan_skipped {c : Char} (h : Text.isAsciiBlank c ∨ c = ';') (rest : List Char) :
    Token.scan (c :: rest) = Token.scan rest := by
  have hc : c ≠ '/' := by
    rintro rfl
    revert h
    decide
  rw [scan_cons (by simp [hc]), if_pos h]

theorem scan_closing (rest : List Char) :
    Token.scan ('}' :: rest) = .closing :: Token.scan rest := by
  rw [scan_cons (by simp), if_neg (by decide)]
  rfl

/-- A head that ends inside its text is not turned into a comment by what follows the text. -/
theorem ne_comment_append {c : Char} {rest : List Char}
    (hcomment : ∀ more, c :: rest ≠ '/' :: '*' :: more) (hended : (splitHead {} (c :: rest)).2 ≠ [])
    (t more : List Char) : c :: (rest ++ t) ≠ '/' :: '*' :: more := by
  intro hmore
  cases rest with
  | nil =>
    obtain ⟨rfl, -⟩ := List.cons.inj hmore
    exact hended rfl
  | cons d rest =>
    simp only [List.cons_append, List.cons.injEq] at hmore
    obtain ⟨rfl, rfl, -⟩ := hmore
    exact hcomment rest rfl

theorem Whole.scan_append {s : List Char} (h : Whole s) (t : List Char) :
    Token.scan (s ++ t) = Token.scan s ++ Token.scan t := by
  induction h with
  | nil => rw [scan_nil, List.nil_append, List.nil_append]
  | comment h _ ih =>
    rw [List.cons_append, List.cons_append, scan_comment (splitComment_append h t),
      scan_comment h, ih]
    rfl
  | skipped h _ ih => rw [List.cons_append, scan_skipped h, scan_skipped h, ih]
  | closing _ ih =>
    rw [List.cons_append, scan_closing, scan_closing, ih]
    rfl
  | head hc hcomment hended _ ih =>
    have hhead := scanHead_append hended t
    rw [List.cons_append] at hhead ⊢
    rw [scan_cons (ne_comment_append hcomment hended t), scan_cons hcomment, if_neg hc.1,
      if_neg hc.2, if_neg hc.1, if_neg hc.2, hhead, ih]
    rfl

theorem Whole.append {s t : List Char} (h : Whole s) (ht : Whole t) : Whole (s ++ t) := by
  induction h with
  | nil => exact ht
  | comment h _ ih => exact .comment (splitComment_append h t) ih
  | skipped h _ ih => exact .skipped h ih
  | closing _ ih => exact .closing ih
  | @head c rest hc hcomment hended _ ih =>
    have hsplit := splitHead_append_right hended t
    have hhead := scanHead_append hended t
    rw [List.cons_append] at hsplit hhead ⊢
    refine .head hc (ne_comment_append hcomment hended t) ?_ ?_
    · rw [hsplit]
      simp [hended]
    · rw [hhead]
      exact ih

/-! ### Blocks -/

def levelsOf (tokens : List Token) : Levels := tokens.foldr Levels.add {}

theorem levelsOf_cons (token : Token) (rest : List Token) :
    levelsOf (token :: rest) = (levelsOf rest).add token := rfl

/-- Every block has its closing brace. -/
def Closed : List Token → Prop
  | [] => True
  | .opening _ :: rest => (levelsOf rest).outer ≠ [] ∧ Closed rest
  | _ :: rest => Closed rest

/-- Levels with others behind them: the last level of the first goes on with the first one of the
others. -/
def Levels.glue (current : List Node) : List (List Node) → Levels → Levels
  | [], behind => ⟨current ++ behind.current, behind.outer⟩
  | next :: outer, behind =>
    ⟨current, (glue next outer behind).current :: (glue next outer behind).outer⟩

theorem Levels.glue_cons (node : Node) (current : List Node) (outer : List (List Node))
    (behind : Levels) :
    glue (node :: current) outer behind = (glue current outer behind).push node := by
  cases outer <;> rfl

theorem Levels.toNodes_glue (current : List Node) (outer : List (List Node)) (behind : Levels) :
    (glue current outer behind).toNodes = current ++ outer.flatten ++ behind.toNodes := by
  induction outer generalizing current with
  | nil => simp [glue, toNodes]
  | cons next outer ih =>
    have hnext := ih next
    simp only [toNodes] at hnext
    simp [glue, toNodes, hnext]

theorem Closed.foldr_add {tokens : List Token} (h : Closed tokens) (behind : Levels) :
    tokens.foldr Levels.add behind =
      Levels.glue (levelsOf tokens).current (levelsOf tokens).outer behind := by
  induction tokens with
  | nil => rfl
  | cons token rest ih =>
    rw [List.foldr_cons]
    cases token with
    | comment text =>
      rw [ih h, Levels.add, ← Levels.glue_cons]
      rfl
    | statement head =>
      rw [ih h, levelsOf_cons]
      simp only [Levels.add]
      cases statementNode? head with
      | none => rfl
      | some node => exact (Levels.glue_cons node _ _ behind).symm
    | closing =>
      rw [ih h]
      rfl
    | opening head =>
      obtain ⟨hopen, hrest⟩ := h
      rw [ih hrest, levelsOf_cons]
      obtain ⟨next, outer, hlevels⟩ := List.exists_cons_of_ne_nil hopen
      rw [hlevels]
      simp only [Levels.add, hlevels, Levels.glue, List.headD_cons, List.tail_cons,
        Levels.glue_cons]
      rfl

theorem nodesOfTokens_append {tokens : List Token} (h : Closed tokens) (more : List Token) :
    nodesOfTokens (tokens ++ more) = nodesOfTokens tokens ++ nodesOfTokens more := by
  unfold nodesOfTokens
  rw [List.foldr_append, h.foldr_add, Levels.toNodes_glue]
  rfl

theorem Closed.append {tokens more : List Token} (h : Closed tokens) (hmore : Closed more) :
    Closed (tokens ++ more) := by
  induction tokens with
  | nil => exact hmore
  | cons token rest ih =>
    cases token with
    | opening head =>
      obtain ⟨hopen, hrest⟩ := h
      obtain ⟨next, outer, hlevels⟩ := List.exists_cons_of_ne_nil hopen
      have houter : (levelsOf (rest ++ more)).outer ≠ [] := by
        rw [levelsOf, List.foldr_append, hrest.foldr_add, hlevels]
        simp [Levels.glue]
      exact ⟨houter, ih hrest⟩
    | comment text => exact ih h
    | statement head => exact ih h
    | closing => exact ih h

/-- A text whose tokens and blocks all end inside it. -/
structure Complete (s : List Char) : Prop where
  whole : Whole s
  closed : Closed (Token.scan s)

/-- The nodes of a complete text do not depend on what follows it, and the other way round. -/
theorem Complete.parseNodes_append {s : List Char} (h : Complete s) (t : List Char) :
    parseNodes (s ++ t) = parseNodes s ++ parseNodes t := by
  unfold parseNodes
  rw [h.whole.scan_append, nodesOfTokens_append h.closed]

theorem parseNodes_nil : parseNodes [] = [] := by
  rw [parseNodes, scan_nil]
  rfl

theorem complete_nil : Complete [] := ⟨.nil, by rw [scan_nil]; trivial⟩

theorem complete_comment {text : List Char} (h : ¬['*', '/'] <:+: text) :
    Complete ('/' :: '*' :: text ++ ['*', '/']) := by
  have hsplit := splitComment_of_not_isInfix h []
  refine ⟨.comment hsplit .nil, ?_⟩
  rw [List.cons_append, List.cons_append, scan_comment hsplit, scan_nil]
  trivial

theorem Complete.append {s t : List Char} (h : Complete s) (ht : Complete t) :
    Complete (s ++ t) := by
  refine ⟨h.whole.append ht.whole, ?_⟩
  rw [h.whole.scan_append]
  exact h.closed.append ht.closed

end StylesheetAssets.Stylesheet
