import StylesheetAssets.Proofs.Stylesheet.Hidden
import StylesheetAssets.Proofs.Stylesheet.Substance
import StylesheetAssets.Proofs.Text.Placing

/-!
The statements among the at-rules of a tree, and the places of the text that they are read from.
-/
namespace StylesheetAssets.Stylesheet

open HeadState

/-! ### At-rules of trees and of tokens -/

mutual

/-- Name and parameters of the at-rules without a block, at any depth and in order. -/
def Node.atStatements : Node → List (String × String)
  | .atStatement name params => [(name, params)]
  | .rule _ nodes => atStatementsOfAll nodes
  | .atBlock _ _ nodes => atStatementsOfAll nodes
  | _ => []

def atStatementsOfAll : List Node → List (String × String)
  | [] => []
  | node :: rest => node.atStatements ++ atStatementsOfAll rest

end

def Token.atStatement? : Token → Option (String × String)
  | .statement ('@' :: body) => some (splitAtRule body)
  | _ => none

theorem atStatementsOfAll_append (nodes more : List Node) :
    atStatementsOfAll (nodes ++ more) = atStatementsOfAll nodes ++ atStatementsOfAll more := by
  induction nodes with
  | nil => rfl
  | cons node rest ih =>
    rw [List.cons_append, atStatementsOfAll, atStatementsOfAll, ih, List.append_assoc]

theorem atStatements_blockNode (head : List Char) (nodes : List Node) :
    (blockNode head nodes).atStatements = atStatementsOfAll nodes := by
  unfold blockNode
  split <;> rfl

theorem atStatementsOfAll_statementNode? (head : List Char) :
    atStatementsOfAll (statementNode? head).toList =
      (Token.atStatement? (.statement head)).toList := by
  unfold statementNode?
  split
  · rfl
  · rfl
  · next hnil hat =>
    have hnone : Token.atStatement? (.statement head) = none := by
      unfold Token.atStatement?
      split
      · next body h =>
        cases h
        exact absurd rfl (hat body)
      · rfl
    rw [hnone, Option.toList_some, atStatementsOfAll, atStatementsOfAll]
    unfold declarationNode
    split <;> rfl

/-- A token in front of levels puts its at-rule in front of theirs. -/
theorem atStatementsOfAll_add (token : Token) (l : Levels) :
    atStatementsOfAll (l.add token).toNodes =
      token.atStatement?.toList ++ atStatementsOfAll l.toNodes := by
  cases token with
  | comment text => rfl
  | statement head =>
    rw [← atStatementsOfAll_statementNode?, ← atStatementsOfAll_append,
      Levels.toNodes_add_statement]
  | closing => rfl
  | opening head =>
    rw [Levels.toNodes_add_opening, atStatementsOfAll, atStatements_blockNode,
      ← atStatementsOfAll_append]
    rfl

/-- The at-rules of a tree are those of its tokens, in the order of the text. -/
theorem atStatementsOfAll_parseNodes (s : List Char) :
    atStatementsOfAll (parseNodes s) = (Token.scan s).filterMap Token.atStatement? := by
  rw [parseNodes, nodesOfTokens]
  induction Token.scan s with
  | nil => rfl
  | cons token rest ih =>
    rw [List.foldr_cons, atStatementsOfAll_add, ih]
    cases h : token.atStatement? with
    | none => rw [List.filterMap_cons_none h]; rfl
    | some rule => rw [List.filterMap_cons_some h]; rfl

/-! ### Segments -/

/-- A part of a text as it is scanned: what a token is read from, or what is passed over. -/
structure Segment where
  text : List Char
  token? : Option Token
deriving DecidableEq, Repr

/-- The mark behind a head that is read together with it. -/
def headEnd : List Char → List Char
  | '{' :: _ => ['{']
  | ';' :: _ => [';']
  | _ => []

/-- A head at the start of a text: the blanks that trimming takes off, and the rest with its end. -/
def headSegments (cs : List Char) : List Segment :=
  [⟨(splitHead {} cs).1.takeWhile Text.isBlank, none⟩,
    ⟨(splitHead {} cs).1.dropWhile Text.isBlank ++ headEnd (splitHead {} cs).2,
      some (scanHead cs).1⟩]

theorem length_scanHead_lt {c : Char} (rest : List Char)
    (hskipped : ¬(Text.isAsciiBlank c || c = ';') = true) (hcloses : ¬c = '}') :
    (scanHead (c :: rest)).2.length < rest.length + 1 := by
  by_cases hbrace : c = '{'
  · rw [hbrace, scanHead_brace]
    exact Nat.lt_succ_self _
  · have hle := length_of_scanHead (c := c) rest (by simp_all)
    omega

/-- The parts of a text, in order, by the recursion of the scan. -/
def segments : List Char → List Segment
  | [] => []
  | '/' :: '*' :: rest =>
    match h : splitComment rest with
    | (body, some after) =>
      have : after.length < rest.length := length_of_splitComment (by rw [h])
      ⟨'/' :: '*' :: body ++ ['*', '/'], some (.comment (Text.trim body))⟩ :: segments after
    | (body, none) => [⟨'/' :: '*' :: body, some (.comment (Text.trim body))⟩]
  | c :: rest =>
    if skipped : Text.isAsciiBlank c || c = ';' then ⟨[c], none⟩ :: segments rest
    else if closes : c = '}' then ⟨[c], some .closing⟩ :: segments rest
    else
      have := length_scanHead_lt rest skipped closes
      headSegments (c :: rest) ++ segments (scanHead (c :: rest)).2
termination_by cs => cs.length

/-- The tokens of a text are those of its segments. -/
theorem filterMap_segments (s : List Char) :
    (segments s).filterMap Segment.token? = Token.scan s := by
  fun_induction segments s with
  | case1 => rw [scan_nil]; rfl
  | case2 rest body after h _ ih =>
    rw [scan_comment h, ← ih]
    rfl
  | case3 rest body h =>
    rw [scan_open_comment h]
    rfl
  | case4 c rest _ hskipped ih =>
    rw [scan_skipped (by simpa using hskipped), ← ih]
    rfl
  | case5 rest _ _ ih =>
    rw [scan_closing, ← ih]
    rfl
  | case6 c rest hne hskipped hcloses _ ih =>
    have hcomment : ∀ more, c :: rest ≠ '/' :: '*' :: more := fun more hmore =>
      hne more (List.cons.inj hmore).1 (List.cons.inj hmore).2
    rw [scan_cons hcomment, if_neg (by simpa using hskipped), if_neg hcloses, ← ih]
    rfl

theorem headEnd_append_scanHead (cs : List Char) :
    headEnd (splitHead {} cs).2 ++ (scanHead cs).2 = (splitHead {} cs).2 := by
  unfold scanHead
  cases splitHead {} cs with
  | mk head rest =>
    dsimp only
    unfold headEnd
    split <;> simp_all

theorem flatMap_headSegments (cs : List Char) :
    (headSegments cs).flatMap Segment.text =
      (splitHead {} cs).1 ++ headEnd (splitHead {} cs).2 := by
  simp [headSegments, ← List.append_assoc]

theorem headSegments_append_scanHead (cs : List Char) :
    (headSegments cs).flatMap Segment.text ++ (scanHead cs).2 = cs := by
  rw [flatMap_headSegments, List.append_assoc, headEnd_append_scanHead, splitHead_append]

/-- The segments of a text spell it. -/
theorem flatMap_segments (s : List Char) : (segments s).flatMap Segment.text = s := by
  fun_induction segments s with
  | case1 => rfl
  | case2 rest body after h _ ih =>
    rw [List.flatMap_cons, ih, ← append_of_splitComment h]
    simp
  | case3 rest body h =>
    rw [eq_of_splitComment h]
    simp
  | case4 c rest _ _ ih => rw [List.flatMap_cons, ih]; rfl
  | case5 rest _ _ ih => rw [List.flatMap_cons, ih]; rfl
  | case6 c rest _ _ _ _ ih =>
    rw [List.flatMap_append, ih, headSegments_append_scanHead]

/-! ### The state of the scan at segments -/

/-- Whatever stands behind `front`, the scan takes it as it takes the start of a text. -/
def Fresh (front rest : List Char) : Prop :=
  ∀ c more, rest = c :: more →
    (HeadState.after {} front).AtRest ∧ (HeadState.after {} front).step c = HeadState.step {} c

theorem fresh_of_after_eq {front : List Char} (h : HeadState.after {} front = {})
    (rest : List Char) : Fresh front rest := by
  intro c more _
  rw [h]
  exact ⟨isClosed_nil.ended, rfl⟩

theorem fresh_of_stops {front rest : List Char}
    (h : ∀ c more, rest = c :: more → (HeadState.after {} front).stops c = true) :
    Fresh front rest := by
  intro c more hrest
  have hstops := h c more hrest
  have hstart : HeadState.stops {} c = true :=
    (isClosed_nil.ended.stops_iff c).2 (((atRest_of_stops hstops).stops_iff c).1 hstops)
  exact ⟨atRest_of_stops hstops, (step_of_stops hstops).trans (step_of_stops hstart).symm⟩

theorem Fresh.after_append {front text rest : List Char} (h : Fresh front (text ++ rest))
    (htext : text ≠ []) : HeadState.after {} (front ++ text) = HeadState.after {} text := by
  obtain ⟨c, text, rfl⟩ := List.exists_cons_of_ne_nil htext
  rw [HeadState.after_append, after_cons, after_cons, (h c _ rfl).2]

/-- Parts that the scan takes up anew are taken up one after the other. -/
theorem Fresh.append {front text rest : List Char} (h : Fresh front (text ++ rest))
    (htext : Fresh text rest) : Fresh (front ++ text) rest := by
  cases text with
  | nil => rwa [List.append_nil]
  | cons c text =>
    intro d more hrest
    rw [h.after_append (List.cons_ne_nil c text)]
    exact htext d more hrest

theorem after_comment {body : List Char} (h : ¬['*', '/'] <:+: body) :
    HeadState.after {} ('/' :: '*' :: body ++ ['*', '/']) = {} := by
  have hsplit := splitComment_of_not_isInfix h []
  exact after_splitComment (congrArg Prod.snd hsplit)

theorem headEnd_eq (rest : List Char) :
    headEnd rest = [] ∨ ∃ c more, rest = c :: more ∧ headEnd rest = [c] := by
  unfold headEnd
  split
  · exact .inr ⟨_, _, rfl, rfl⟩
  · exact .inr ⟨_, _, rfl, rfl⟩
  · exact .inl rfl

/-- Behind a head and its end the scan starts anew. -/
theorem fresh_head (cs : List Char) :
    Fresh ((splitHead {} cs).1 ++ headEnd (splitHead {} cs).2) (scanHead cs).2 := by
  rcases headEnd_eq (splitHead {} cs).2 with hnone | ⟨c, more, hrest, hend⟩
  · have hscan := headEnd_append_scanHead cs
    rw [hnone, List.nil_append] at hscan
    rw [hnone, List.append_nil, hscan]
    exact fresh_of_stops fun c more => stops_of_splitHead
  · refine fresh_of_after_eq ?_ _
    rw [hend, HeadState.after_append]
    exact step_of_stops (stops_of_splitHead hrest)

theorem after_fillers {fillers : List Char} (h : ∀ c ∈ fillers, isFiller c = true) :
    HeadState.after {} fillers = {} := by
  cases fillers with
  | nil => rfl
  | cons c fillers => exact (sound_after []).after_gap ⟨by simp, h⟩

/-- Nothing is open behind the blanks in front of a head. -/
theorem Fresh.atRest_append {front blanks rest : List Char} (h : Fresh front (blanks ++ rest))
    (hfront : (HeadState.after {} front).AtRest) (hblanks : ∀ c ∈ blanks, isFiller c = true) :
    (HeadState.after {} (front ++ blanks)).AtRest := by
  cases blanks with
  | nil => rwa [List.append_nil]
  | cons c blanks =>
    rw [h.after_append (List.cons_ne_nil c blanks), after_fillers hblanks]
    exact isClosed_nil.ended

theorem Fresh.behind_head {front cs : List Char} (h : Fresh front cs) :
    Fresh (front ++ (headSegments cs).flatMap Segment.text) (scanHead cs).2 := by
  refine Fresh.append ?_ ?_
  · rwa [headSegments_append_scanHead]
  · rw [flatMap_headSegments]
    exact fresh_head cs

theorem atRest_of_mem_headSegments {front cs : List Char} (h : Fresh front cs)
    (hfront : (HeadState.after {} front).AtRest) :
    ∀ p ∈ Text.placed Segment.text front (headSegments cs), (HeadState.after {} p.1).AtRest := by
  have hcs := headSegments_append_scanHead cs
  rw [headSegments, List.flatMap_cons, List.append_assoc] at hcs
  rw [← hcs] at h
  have hblanks := h.atRest_append hfront fun c hc => isFiller_of_isBlank (List.mem_takeWhile_imp hc)
  exact List.forall_mem_cons.2 ⟨hfront, List.forall_mem_cons.2 ⟨hblanks, nofun⟩⟩

/-- Nothing is open where a segment starts. -/
theorem atRest_of_mem_segments {front s : List Char} (h : Fresh front s) :
    ∀ p ∈ Text.placed Segment.text front (segments s), (HeadState.after {} p.1).AtRest := by
  -- Along the recursion of the scan every segment leaves the rest to be taken up anew.
  fun_induction segments s generalizing front with
  | case1 => nofun
  | case2 rest body after hsplit _ ih =>
    have hbody := (splitComment_eq_some_iff.1 hsplit).2
    have hfront := (h _ _ rfl).1
    rw [← append_of_splitComment hsplit] at h
    have hbehind : Fresh (front ++ ('/' :: '*' :: body ++ ['*', '/'])) after :=
      Fresh.append (by simpa using h) (fresh_of_after_eq (after_comment hbody) after)
    exact List.forall_mem_cons.2 ⟨hfront, ih hbehind⟩
  | case3 rest body hsplit => exact List.forall_mem_cons.2 ⟨(h _ _ rfl).1, nofun⟩
  | case4 c rest _ hskipped ih =>
    have hc : HeadState.after {} [c] = {} := step_skipped (by simpa using hskipped)
    exact List.forall_mem_cons.2 ⟨(h _ _ rfl).1, ih (h.append (fresh_of_after_eq hc rest))⟩
  | case5 rest _ _ ih =>
    have hc : HeadState.after {} ['}'] = {} := rfl
    exact List.forall_mem_cons.2 ⟨(h _ _ rfl).1, ih (h.append (fresh_of_after_eq hc rest))⟩
  | case6 c rest _ _ _ _ ih =>
    rw [Text.placed_append, List.forall_mem_append]
    exact ⟨atRest_of_mem_headSegments h (h _ _ rfl).1, ih h.behind_head⟩

/-! ### At-rules in their places -/

/-- An at-rule without a block, and the text that it is read from, together with its end. -/
structure AtRule where
  text : List Char
  name : String
  params : String
deriving DecidableEq, Repr

def Segment.atRule? (g : Segment) : Option AtRule :=
  (g.token?.bind Token.atStatement?).map fun rule => ⟨g.text, rule.1, rule.2⟩

/-- The at-rules without a block in a text, each with the text in front of it. -/
def atRules (s : List Char) : List (List Char × AtRule) :=
  Text.picked Segment.text Segment.atRule? [] (segments s)

/-- The at-rules of a text are those of its tree, at any depth and in order. -/
theorem map_atRules (s : List Char) :
    (atRules s).map (fun p => (p.2.name, p.2.params)) = atStatementsOfAll (parseNodes s) := by
  rw [atStatementsOfAll_parseNodes, ← filterMap_segments, List.filterMap_filterMap]
  calc (atRules s).map (fun p => (p.2.name, p.2.params))
      = ((atRules s).map (·.2)).map fun rule => (rule.name, rule.params) := by
        rw [List.map_map]
        rfl
    _ = (segments s).filterMap fun g => g.token?.bind Token.atStatement? := by
      rw [atRules, Text.map_snd_picked, List.map_filterMap]
      congr 1
      funext g
      rw [Segment.atRule?, Option.map_map]
      exact Option.map_id'

/-- What a scan takes for a statement is the trimmed head, which ends with a semicolon or with what
is not read together with it. -/
theorem of_scanHead_statement {cs head : List Char} (h : (scanHead cs).1 = .statement head) :
    Text.trim (splitHead {} cs).1 = head ∧
      (headEnd (splitHead {} cs).2 = [] ∨
        headEnd (splitHead {} cs).2 = [';'] ∧
          (HeadState.after {} (splitHead {} cs).1).stops ';' = true) := by
  have hstops (c : Char) (more : List Char) (h : (splitHead {} cs).2 = c :: more) :=
    stops_of_splitHead h
  unfold scanHead at h
  generalize splitHead {} cs = parts at h hstops ⊢
  obtain ⟨raw, rest⟩ := parts
  dsimp only at h ⊢
  split at h
  · cases h
  · next more =>
    exact ⟨Token.statement.inj h, .inr ⟨rfl, hstops ';' more rfl⟩⟩
  · next hbrace hsemicolon =>
    refine ⟨Token.statement.inj h, .inl ?_⟩
    unfold headEnd
    split
    · exact absurd rfl (hbrace _)
    · exact absurd rfl (hsemicolon _)
    · rfl

/-- A head that starts with an at sign reads alone as it reads in its text. -/
theorem scan_of_atHead {cs body : List Char} (h : (scanHead cs).1 = .statement ('@' :: body)) :
    Token.scan ((splitHead {} cs).1.dropWhile Text.isBlank ++ headEnd (splitHead {} cs).2) =
      [.statement ('@' :: body)] := by
  obtain ⟨htrim, hend⟩ := of_scanHead_statement h
  have hpasses := passes_splitHead {} cs
  generalize (splitHead {} cs).1 = raw at htrim hend hpasses ⊢
  have hparts : raw.takeWhile Text.isBlank ++ raw.dropWhile Text.isBlank = raw :=
    List.takeWhile_append_dropWhile
  have hblanks : HeadState.after {} (raw.takeWhile Text.isBlank) = {} :=
    after_fillers fun c hc => isFiller_of_isBlank (List.mem_takeWhile_imp hc)
  have htext : Text.trim (raw.dropWhile Text.isBlank) = '@' :: body :=
    (Text.trimBy_dropWhile _ raw).trans htrim
  obtain ⟨back, hback⟩ : '@' :: body <+: raw.dropWhile Text.isBlank := by
    rw [← htrim]
    exact List.rdropWhile_prefix _ _
  have hstate : HeadState.after {} (raw.dropWhile Text.isBlank) = HeadState.after {} raw := by
    conv_rhs => rw [← hparts, HeadState.after_append, hblanks]
  have hpassesText : (splitHead {} (raw.dropWhile Text.isBlank)).2 = [] := by
    rw [← hparts] at hpasses
    simpa only [hblanks] using (passes_append.1 hpasses).2
  have hscan : scanHead (raw.dropWhile Text.isBlank ++ headEnd (splitHead {} cs).2) =
      (.statement ('@' :: body), []) := by
    rcases hend with hend | ⟨hend, hstops⟩
    · rw [hend, List.append_nil, scanHead_of_passes hpassesText, htext]
    · -- The semicolon ends the head alone, since nothing is open in front of it in the text.
      have hclosed : IsClosed (raw.dropWhile Text.isBlank) :=
        ⟨hpassesText, by rw [hstate]; exact atRest_of_stops hstops⟩
      rw [hend, hclosed.scanHead_semicolon, htext]
  rw [← hback, List.cons_append, List.cons_append] at hscan ⊢
  rw [scan_cons (by simp), if_neg (by decide), if_neg (by decide), hscan, scan_nil]

theorem scan_text_of_mem_segments {s body : List Char} {g : Segment} (hg : g ∈ segments s)
    (htoken : g.token? = some (.statement ('@' :: body))) :
    Token.scan g.text = [.statement ('@' :: body)] := by
  fun_induction segments s with
  | case1 => cases hg
  | case2 rest body' after _ _ ih =>
    rcases List.mem_cons.1 hg with rfl | hg
    · cases htoken
    · exact ih hg
  | case3 rest body' _ =>
    obtain rfl := List.mem_singleton.1 hg
    cases htoken
  | case4 c rest _ _ ih =>
    rcases List.mem_cons.1 hg with rfl | hg
    · cases htoken
    · exact ih hg
  | case5 rest _ _ ih =>
    rcases List.mem_cons.1 hg with rfl | hg
    · cases htoken
    · exact ih hg
  | case6 c rest _ _ _ _ ih =>
    rcases List.mem_append.1 hg with hhead | hg
    · simp only [headSegments, List.mem_cons, List.not_mem_nil, or_false] at hhead
      rcases hhead with rfl | rfl
      · cases htoken
      · exact scan_of_atHead (Option.some.inj htoken)
    · exact ih hg

variable {s : List Char} {p : List Char × AtRule}

theorem exists_segment_of_mem_atRules (h : p ∈ atRules s) :
    ∃ g, (p.1, g) ∈ Text.placed Segment.text [] (segments s) ∧ g.text = p.2.text ∧
      ∃ body, g.token? = some (.statement ('@' :: body)) ∧
        splitAtRule body = (p.2.name, p.2.params) := by
  obtain ⟨g, hplaced, hrule⟩ := Text.mem_picked.1 h
  obtain ⟨rule, htoken, hp⟩ := Option.map_eq_some_iff.1 hrule
  obtain ⟨token, hg, hstatement⟩ := Option.bind_eq_some_iff.1 htoken
  unfold Token.atStatement? at hstatement
  split at hstatement
  · next body =>
    cases hstatement
    rw [← hp]
    exact ⟨g, hplaced, rfl, body, hg, rfl⟩
  · cases hstatement

/-- The text of an at-rule stands at its place. -/
theorem append_of_mem_atRules (h : p ∈ atRules s) : ∃ rest, p.1 ++ (p.2.text ++ rest) = s := by
  obtain ⟨g, hplaced, htext, -⟩ := exists_segment_of_mem_atRules h
  obtain ⟨rest, hrest⟩ := Text.append_of_mem_placed hplaced
  rw [flatMap_segments, htext] at hrest
  exact ⟨rest, hrest⟩

/-- The text of an at-rule alone reads as that at-rule. -/
theorem parseNodes_of_mem_atRules (h : p ∈ atRules s) :
    parseNodes p.2.text = [.atStatement p.2.name p.2.params] := by
  obtain ⟨g, hplaced, htext, body, htoken, hrule⟩ := exists_segment_of_mem_atRules h
  have hnodes : nodesOfTokens [.statement ('@' :: body)] =
      [.atStatement (splitAtRule body).1 (splitAtRule body).2] := rfl
  rw [parseNodes, ← htext, scan_text_of_mem_segments (Text.mem_of_mem_placed hplaced) htoken,
    hnodes, hrule]

/-- Nothing is open where an at-rule starts. -/
theorem atRest_of_mem_atRules (h : p ∈ atRules s) : (HeadState.after {} p.1).AtRest := by
  obtain ⟨g, hplaced, -⟩ := exists_segment_of_mem_atRules h
  exact atRest_of_mem_segments (fresh_of_after_eq rfl s) _ hplaced

end StylesheetAssets.Stylesheet
