import StylesheetAssets.Proofs.Stylesheet.Bytewise.Heads

/-!
The nodes read by bytes are those of the text, and the reader comes to its end.
-/

namespace StylesheetAssets.Stylesheet.Bytewise

open Text (ByteReader find? byteLength)
open Text.ByteReader
open Source

/-! ### Single nodes -/

section Nodes

variable {text front rest : List Char} {i : Nat}

/-- The name of an at-rule is cut off between characters, because a character ends it. -/
theorem goes_readAtRule (body : List Char) :
    Goes text (readAtRule ('@' :: body)) i (splitAtRule body) i := by
  have happend := List.takeWhile_append_dropWhile (p := (!endsName ·)) (l := body)
  have hbody : ['@'] ++ body ++ [] = '@' :: body := by simp
  have hname : [] ++ body.takeWhile (!endsName ·) ++ body.dropWhile (!endsName ·) = body := happend
  have hparams : body.takeWhile (!endsName ·) ++ body.dropWhile (!endsName ·) ++ [] = body := by
    rw [List.append_nil, happend]
  refine (goes_slice hbody).bind ?_
  dsimp only
  rw [Text.find?_head]
  refine (goes_slice hname).bind ?_
  have hslice : Goes text _ i _ i := goes_slice hparams
  rw [happend] at hslice
  exact hslice.bind (goes_pure _)

theorem goes_readBlock (head : List Char) (nodes : List Node) :
    Goes text (readBlock head nodes) i (blockNode head nodes) i := by
  by_cases hat : ['@'] <+: head
  · obtain ⟨body, rfl⟩ := hat
    exact (goes_readAtRule body).bind (goes_pure _)
  · rw [readBlock, if_neg (by rwa [List.isPrefixOf_iff_prefix]), blockNode_of_not_atRule hat]
    exact goes_pure _

theorem goes_readStatement (head : List Char) :
    Goes text (readStatement head) i (statementNode? head) i := by
  by_cases hat : ['@'] <+: head
  · obtain ⟨body, rfl⟩ := hat
    exact (goes_readAtRule body).bind (goes_pure _)
  · cases head with
    | nil => exact goes_pure none
    | cons c head =>
      rw [readStatement, if_neg (by simp), if_neg (by rwa [List.isPrefixOf_iff_prefix]),
        statementNode?_of_not_atRule (by simp) hat]
      exact goes_pure _

theorem goes_readComment {body mark after : List Char} (h : CommentParts rest body mark after)
    (htext : front ++ '/' :: '*' :: rest = text) :
    Goes text (readComment text) (byteLength front) (.comment (String.ofList (Text.trim body)))
      (byteLength (front ++ '/' :: '*' :: (body ++ mark))) := by
  have hbehind : front ++ '/' :: '*' :: (body ++ mark) ++ after = text := by
    rw [← htext, ← h.append_eq]
    simp
  have hbody : front ++ ['/', '*'] ++ body ++ (mark ++ after) = text := by
    rw [← htext, ← h.append_eq]
    simp
  have hslice : Goes text (slice text _ _) (byteLength (front ++ '/' :: '*' :: (body ++ mark)))
    body _ := goes_slice hbody
  rw [Text.byteLength_append front] at hslice
  refine goes_cursor.bind ((goes_findCommentEnd h htext).bind
    ((goes_moveTo_behind hbehind).bind ?_))
  rw [List.append_assoc] at hslice
  exact hslice.bind (goes_pure _)

end Nodes

/-! ### Levels -/

/-- The nodes of the block that the text starts in; those outside of it as well, if it is none. -/
def nodesHere (nested : Bool) (l : Levels) : List Node := if nested then l.current else l.toNodes

/-- The levels behind the end of that block. -/
def levelsBehind (nested : Bool) (l : Levels) : Levels :=
  if nested then ⟨l.outer.headD [], l.outer.tail⟩ else {}

theorem nodesHere_push (nested : Bool) (l : Levels) (node : Node) :
    nodesHere nested (l.push node) = node :: nodesHere nested l := by
  cases nested <;> rfl

theorem levelsBehind_push (nested : Bool) (l : Levels) (node : Node) :
    levelsBehind nested (l.push node) = levelsBehind nested l := by
  cases nested <;> rfl

theorem nodesHere_statement (nested : Bool) (l : Levels) (head : List Char) :
    nodesHere nested (l.add (.statement head)) =
      (statementNode? head).toList ++ nodesHere nested l := by
  rw [Levels.add]
  cases statementNode? head with
  | none => rfl
  | some node => exact nodesHere_push nested l node

theorem levelsBehind_statement (nested : Bool) (l : Levels) (head : List Char) :
    levelsBehind nested (l.add (.statement head)) = levelsBehind nested l := by
  rw [Levels.add]
  cases statementNode? head with
  | none => rfl
  | some node => exact levelsBehind_push nested l node

/-- The children of a block are the nodes up to its end, and its neighbours are behind that. -/
theorem nodesHere_opening (nested : Bool) (l : Levels) (head : List Char) :
    nodesHere nested (l.add (.opening head)) =
      blockNode head (nodesHere true l) :: nodesHere nested (levelsBehind true l) := by
  cases nested <;> rfl

theorem levelsBehind_opening (nested : Bool) (l : Levels) (head : List Char) :
    levelsBehind nested (l.add (.opening head)) =
      levelsBehind nested (levelsBehind true l) := by
  cases nested <;> rfl

/-! ### Blocks -/

/-- From here on the reader answers the nodes of the block, behind those that it holds already, and
stops behind the block. -/
def ReadsNodes (text front rest : List Char) (nested : Bool) : Prop :=
  ∃ body after, body ++ after = rest ∧
    levelsOf (Token.scan after) = levelsBehind nested (levelsOf (Token.scan rest)) ∧
    ∀ nodes, Goes text (readNodes text nested nodes) (byteLength front)
      (nodes ++ nodesHere nested (levelsOf (Token.scan rest))) (byteLength (front ++ body))

/-- What the reader makes of the next item: it passes it and adds its nodes, or the block ends. -/
inductive ReadsItem (text front rest : List Char) (nested : Bool) : Prop
  | adds {body after : List Char} {more : List Node} (append_eq : body ++ after = rest)
      (ne_nil : body ≠ [])
      (nodes_eq : nodesHere nested (levelsOf (Token.scan rest)) =
        more ++ nodesHere nested (levelsOf (Token.scan after)))
      (levels_eq : levelsBehind nested (levelsOf (Token.scan after)) =
        levelsBehind nested (levelsOf (Token.scan rest)))
      (goes : Goes text (readItem text nested) (byteLength front) (some more)
        (byteLength (front ++ body)))
  | ends {body after : List Char} (append_eq : body ++ after = rest)
      (nodes_eq : nodesHere nested (levelsOf (Token.scan rest)) = [])
      (levels_eq : levelsOf (Token.scan after) =
        levelsBehind nested (levelsOf (Token.scan rest)))
      (goes : Goes text (readItem text nested) (byteLength front) none
        (byteLength (front ++ body)))

section Items

variable {text front rest : List Char}

theorem readsItem_nil (nested : Bool) (htext : front = text) : ReadsItem text front [] nested := by
  subst htext
  refine @ReadsItem.ends _ _ _ _ [] [] rfl ?_ ?_ ?_
  · rw [scan_nil]
    cases nested <;> rfl
  · rw [scan_nil]
    cases nested <;> rfl
  · rw [readItem, List.append_nil]
    exact goes_peek_end.bind (goes_pure none)

theorem readsItem_comment (nested : Bool) (htext : front ++ '/' :: '*' :: rest = text) :
    ReadsItem text front ('/' :: '*' :: rest) nested := by
  obtain ⟨body, mark, after, hparts⟩ := CommentParts.exists_of rest
  have hscan : levelsOf (Token.scan ('/' :: '*' :: rest)) =
      (levelsOf (Token.scan after)).push (.comment (String.ofList (Text.trim body))) := by
    rw [hparts.scan_eq]
    rfl
  refine @ReadsItem.adds _ _ _ _ ('/' :: '*' :: (body ++ mark)) after
    [.comment (String.ofList (Text.trim body))] ?_ (by simp) ?_ ?_ ?_
  · rw [← hparts.append_eq]
    simp
  · rw [hscan, nodesHere_push]
    rfl
  · rw [hscan, levelsBehind_push]
  · rw [readItem]
    refine (goes_peek htext (by decide)).bind ((goes_startsWith_comment htext).bind ?_)
    rw [if_pos (by rfl)]
    exact (goes_readComment hparts htext).bind (goes_pure _)

theorem readsItem_closing (nested : Bool) (htext : front ++ '}' :: rest = text) :
    ReadsItem text front ('}' :: rest) nested := by
  have hscan : levelsOf (Token.scan ('}' :: rest)) =
      ⟨[], (levelsOf (Token.scan rest)).current :: (levelsOf (Token.scan rest)).outer⟩ := by
    rw [scan_closing]
    rfl
  have hread {items : Option (List Node)} (hitems : items = if nested then none else some []) :
      Goes text (readItem text nested) (byteLength front) items (byteLength (front ++ ['}'])) := by
    subst hitems
    rw [readItem]
    refine (goes_peek htext (by decide)).bind
      ((goes_startsWith_other htext (by simp)).bind ?_)
    exact (goes_skip_char htext (by decide)).bind (goes_pure _)
  cases nested with
  | true =>
    refine @ReadsItem.ends _ _ _ _ ['}'] rest rfl ?_ ?_ (hread rfl)
    · rw [hscan]
      rfl
    · rw [hscan]
      rfl
  | false =>
    refine @ReadsItem.adds _ _ _ _ ['}'] rest [] rfl (by simp) ?_ ?_ (hread rfl)
    · rw [hscan]
      rfl
    · rfl

theorem readsItem_semicolon (nested : Bool) (htext : front ++ ';' :: rest = text) :
    ReadsItem text front (';' :: rest) nested := by
  have hscan : Token.scan (';' :: rest) = Token.scan rest := scan_skipped (.inr rfl) rest
  refine @ReadsItem.adds _ _ _ _ [';'] rest [] rfl (by simp) ?_ ?_ ?_
  · rw [hscan]
    rfl
  · rw [hscan]
  · rw [readItem]
    refine (goes_peek htext (by decide)).bind
      ((goes_startsWith_other htext (by simp)).bind ?_)
    exact (goes_skip_char htext (by decide)).bind (goes_pure _)

/-- A head is cut out between characters and then read on behind. -/
theorem goes_readItem_head {c : Char} {head after : List Char} {more : List Node} {j : Nat}
    (nested : Bool) (htext : front ++ c :: rest = text) (hc : c ≠ ';' ∧ c ≠ '}')
    (hcomment : ∀ more, c :: rest ≠ '/' :: '*' :: more)
    (hsplit : splitHead {} (c :: rest) = (head, after))
    (hbehind : Goes text (readBehind text (Text.trim head) (.before after))
      (byteLength (front ++ head)) more j) :
    Goes text (readItem text nested) (byteLength front) (some more) j := by
  obtain ⟨d, hd, hat⟩ := Text.exists_byteAt htext
  have hne (e : Char) (he : e.toNat < 128) (hce : c ≠ e) : d ≠ e := by
    simpa [hce] using hd _ (Text.isAscii_eq he)
  have hhead : Goes text (passHead text 0) _ _ _ := goes_passHead 0 htext
  have hparts : front ++ head ++ after = text := by
    rw [List.append_assoc, ← htext, ← splitHead_append {} (c :: rest), hsplit]
  have hsplit' : splitHead ⟨.plain, 0⟩ (c :: rest) = (head, after) := hsplit
  rw [hsplit'] at hhead
  rw [readItem]
  refine (goes_peek_of hat).bind ((goes_startsWith_other htext hcomment).bind ?_)
  dsimp only
  rw [if_neg (by simp), if_neg (hne _ (by decide) hc.2), if_neg (hne _ (by decide) hc.1)]
  refine goes_cursor.bind (hhead.bind (goes_cursor.bind ((goes_slice hparts).bind ?_)))
  exact hbehind.bind (goes_pure _)

theorem readsItem_opening {c : Char} {head after : List Char} (nested : Bool)
    (htext : front ++ c :: rest = text) (hc : ¬(Text.isAsciiBlank c ∨ c = ';') ∧ c ≠ '}')
    (hcomment : ∀ more, c :: rest ≠ '/' :: '*' :: more)
    (hsplit : splitHead {} (c :: rest) = (head, '{' :: after))
    (hchildren : ReadsNodes text (front ++ head ++ ['{']) after true) :
    ReadsItem text front (c :: rest) nested := by
  obtain ⟨body, after, rfl, hlevels, hgoes⟩ := hchildren
  have happend : head ++ '{' :: (body ++ after) = c :: rest := by
    rw [← splitHead_append {} (c :: rest), hsplit]
  have hbrace : front ++ head ++ '{' :: (body ++ after) = text := by
    rw [List.append_assoc, happend, htext]
  have hblock : Goes text (readBehind text (Text.trim head) .block) (byteLength (front ++ head))
      [blockNode (Text.trim head) (nodesHere true (levelsOf (Token.scan (body ++ after))))]
      (byteLength (front ++ (head ++ '{' :: body))) := by
    have hbody := hgoes []
    simp only [List.append_assoc, List.singleton_append, List.nil_append] at hbody
    rw [readBehind]
    refine (goes_skip_char hbrace (by decide)).bind ?_
    rw [List.append_assoc]
    exact hbody.bind ((goes_readBlock _ _).bind (goes_pure _))
  have hscan : levelsOf (Token.scan (c :: rest)) =
      (levelsOf (Token.scan (body ++ after))).add (.opening (Text.trim head)) := by
    rw [scan_cons hcomment, if_neg hc.1, if_neg hc.2, scanHead, hsplit]
    rfl
  have happend' : head ++ '{' :: body ++ after = c :: rest := by simpa using happend
  refine .adds happend' (by simp) ?_ ?_
    (goes_readItem_head nested htext ⟨fun h => hc.1 (.inr h), hc.2⟩ hcomment hsplit hblock)
  · rw [hscan, nodesHere_opening, hlevels]
    rfl
  · rw [hscan, levelsBehind_opening, hlevels]

/-- What is read as the statement of a head adds the node of that statement. -/
theorem ReadsItem.of_statement {c : Char} {head after body after' : List Char} {nested : Bool}
    (htext : front ++ c :: rest = text) (hc : ¬(Text.isAsciiBlank c ∨ c = ';') ∧ c ≠ '}')
    (hcomment : ∀ more, c :: rest ≠ '/' :: '*' :: more)
    (hsplit : splitHead {} (c :: rest) = (head, after)) (happend : body ++ after' = c :: rest)
    (hne : body ≠ []) (hscan : scanHead (c :: rest) = (.statement (Text.trim head), after'))
    (hgoes : Goes text (readBehind text (Text.trim head) (.before after))
      (byteLength (front ++ head)) (statementNode? (Text.trim head)).toList
      (byteLength (front ++ body))) : ReadsItem text front (c :: rest) nested := by
  have hlevels : levelsOf (Token.scan (c :: rest)) =
      (levelsOf (Token.scan after')).add (.statement (Text.trim head)) := by
    rw [scan_cons hcomment, if_neg hc.1, if_neg hc.2, hscan]
    rfl
  refine .adds happend hne ?_ ?_
    (goes_readItem_head nested htext ⟨fun h => hc.1 (.inr h), hc.2⟩ hcomment hsplit hgoes)
  · rw [hlevels, nodesHere_statement]
  · rw [hlevels, levelsBehind_statement]

/-- A head is empty only in front of what ends it. -/
theorem ne_nil_of_splitHead {c : Char} {head after : List Char}
    (hsplit : splitHead {} (c :: rest) = (head, after)) (hblock : ∀ more, after ≠ '{' :: more)
    (hc : c ≠ ';' ∧ c ≠ '}') : head ≠ [] := by
  rintro rfl
  have happend : after = c :: rest := by
    have hwhole := splitHead_append {} (c :: rest)
    rwa [hsplit] at hwhole
  have hstops : HeadState.stops {} c = true := by
    by_contra hgoesOn
    rw [splitHead_cons (Bool.eq_false_iff.2 hgoesOn)] at hsplit
    cases hsplit
  rcases ((HeadState.atRest_of_stops hstops).stops_iff c).1 hstops with rfl | rfl | rfl
  · exact hblock rest happend
  · exact hc.1 rfl
  · exact hc.2 rfl

/-- A head that neither a brace nor a semicolon ends is a statement up to where it ends. -/
theorem scanHead_of_unended {cs head after : List Char} (hsplit : splitHead {} cs = (head, after))
    (hblock : ∀ more, after ≠ '{' :: more) (hsemicolon : ∀ more, after ≠ ';' :: more) :
    scanHead cs = (.statement (Text.trim head), after) ∧
      (HeadEnd.before after = .close ∨ HeadEnd.before after = .endOfText) := by
  constructor
  · rw [scanHead, hsplit]
    dsimp only
    split
    · exact absurd rfl (hblock _)
    · exact absurd rfl (hsemicolon _)
    · rfl
  · unfold HeadEnd.before
    split
    · exact absurd rfl (hblock _)
    · exact absurd rfl (hsemicolon _)
    · exact .inl rfl
    · exact .inr rfl

theorem readsItem_statement {c : Char} {head after : List Char} (nested : Bool)
    (htext : front ++ c :: rest = text) (hc : ¬(Text.isAsciiBlank c ∨ c = ';') ∧ c ≠ '}')
    (hcomment : ∀ more, c :: rest ≠ '/' :: '*' :: more)
    (hsplit : splitHead {} (c :: rest) = (head, after)) (hblock : ∀ more, after ≠ '{' :: more) :
    ReadsItem text front (c :: rest) nested := by
  have happend : head ++ after = c :: rest := by
    rw [← splitHead_append {} (c :: rest), hsplit]
  have hbehind : front ++ head ++ after = text := by rw [List.append_assoc, happend, htext]
  by_cases hsemicolon : ∃ more, after = ';' :: more
  · obtain ⟨after, rfl⟩ := hsemicolon
    have happend' : head ++ [';'] ++ after = c :: rest := by simpa using happend
    refine .of_statement htext hc hcomment hsplit happend' (by simp) ?_ ?_
    · rw [scanHead, hsplit]
      rfl
    · rw [HeadEnd.before, readBehind, ← List.append_assoc]
      exact (goes_skip_char hbehind (by decide)).bind
        ((goes_readStatement _).bind (goes_pure _))
  · have hne := ne_nil_of_splitHead hsplit hblock ⟨fun h => hc.1 (.inr h), hc.2⟩
    obtain ⟨hscan, hended⟩ := scanHead_of_unended hsplit hblock (not_exists.1 hsemicolon)
    refine .of_statement htext hc hcomment hsplit happend hne hscan ?_
    rcases hended with hended | hended <;> rw [hended, readBehind] <;>
      exact (goes_readStatement _).bind (goes_pure _)

theorem readsItem (nested : Bool) (htext : front ++ rest = text)
    (hblank : rest.head?.any Text.isAsciiBlank = false)
    (hchildren : ∀ front' rest', front' ++ rest' = text → rest'.length < rest.length →
      ReadsNodes text front' rest' true) : ReadsItem text front rest nested := by
  cases rest with
  | nil => exact readsItem_nil nested (by simpa using htext)
  | cons c rest =>
    by_cases hcomment : ∃ more, c :: rest = '/' :: '*' :: more
    · obtain ⟨more, hmore⟩ := hcomment
      rw [hmore] at htext ⊢
      exact readsItem_comment nested htext
    by_cases hclosing : c = '}'
    · subst hclosing
      exact readsItem_closing nested htext
    by_cases hsemicolon : c = ';'
    · subst hsemicolon
      exact readsItem_semicolon nested htext
    have hcomment : ∀ more, c :: rest ≠ '/' :: '*' :: more := fun more h => hcomment ⟨more, h⟩
    have hc : ¬(Text.isAsciiBlank c ∨ c = ';') ∧ c ≠ '}' := by
      simp only [List.head?_cons, Option.any_some] at hblank
      simp [hblank, hsemicolon, hclosing]
    cases hsplit : splitHead {} (c :: rest) with
    | mk head after =>
      by_cases hblock : ∃ more, after = '{' :: more
      · obtain ⟨after, rfl⟩ := hblock
        have happend : head ++ '{' :: after = c :: rest := by
          rw [← splitHead_append {} (c :: rest), hsplit]
        have hlength := congrArg List.length happend
        simp only [List.length_append, List.length_cons] at hlength
        refine readsItem_opening nested htext hc hcomment hsplit (hchildren _ _ ?_ ?_)
        · rw [← htext, ← happend]
          simp
        · rw [List.length_cons]
          omega
      · exact readsItem_statement nested htext hc hcomment hsplit fun more h => hblock ⟨more, h⟩

end Items

theorem scan_blanks {blanks : List Char} (h : ∀ c ∈ blanks, Text.isAsciiBlank c = true)
    (rest : List Char) : Token.scan (blanks ++ rest) = Token.scan rest := by
  induction blanks with
  | nil => rfl
  | cons c blanks ih =>
    obtain ⟨hc, hblanks⟩ := List.forall_mem_cons.1 h
    rw [List.cons_append, scan_skipped (.inl hc), ih hblanks]

/-! ### Whole blocks -/

section Turns

variable {text : List Char} {nested : Bool} {nodes more all : List Node} {i j k l : Nat}

theorem goes_readNodes_stop (hblanks : Goes text (passBlanks text) i () j)
    (hitem : Goes text (readItem text nested) j none k) :
    Goes text (readNodes text nested nodes) i nodes k := by
  rw [readNodes]
  exact goes_cursor.bind (hblanks.bind (hitem.bind (goes_pure nodes)))

theorem goes_readNodes_turn (hblanks : Goes text (passBlanks text) i () j)
    (hitem : Goes text (readItem text nested) j (some more) k) (hturn : i < k)
    (hrest : Goes text (readNodes text nested (nodes ++ more)) k all l) :
    Goes text (readNodes text nested nodes) i all l := by
  rw [readNodes]
  exact goes_cursor.bind (hblanks.bind (hitem.bind
    (goes_cursor.bind ((goes_turned hturn).bind hrest))))

end Turns

/-- The reader comes to the end of every block. -/
theorem readsNodes {text front rest : List Char} (nested : Bool) (htext : front ++ rest = text) :
    ReadsNodes text front rest nested := by
  -- An item may hold a whole block, so the induction is on the length of what is left.
  induction hn : rest.length using Nat.strongRecOn generalizing front rest nested with
  | _ n ih =>
    subst hn
    obtain ⟨blanks, items, rfl, hblanks, hitems⟩ := Text.exists_splitAt (!Text.isAsciiBlank ·) rest
    have hblanks : ∀ c ∈ blanks, Text.isAsciiBlank c = true := by simpa using hblanks
    have hitems : items.head?.any Text.isAsciiBlank = false := by
      cases items with
      | nil => rfl
      | cons c items => simpa using hitems c rfl
    have hlength : items.length ≤ (blanks ++ items).length := by simp
    have htext' : front ++ blanks ++ items = text := by rw [List.append_assoc, htext]
    have hpass := goes_passBlanks htext hblanks hitems
    have hitem : ReadsItem text (front ++ blanks) items nested :=
      readsItem nested htext' hitems fun front' rest' htext' hlt =>
        ih rest'.length (by omega) true htext' rfl
    have hscan : Token.scan (blanks ++ items) = Token.scan items := scan_blanks hblanks items
    cases hitem with
    | @ends body after happend hnodes hlevels hgoes =>
      refine ⟨blanks ++ body, after, by rw [List.append_assoc, happend], by rw [hlevels, hscan],
        fun nodes => ?_⟩
      rw [List.append_assoc] at hgoes
      rw [hscan, hnodes, List.append_nil]
      exact goes_readNodes_stop hpass hgoes
    | @adds body after more happend hne hnodes hlevels hgoes =>
      have hturn : byteLength front < byteLength (front ++ blanks ++ body) := by
        rw [List.append_assoc]
        exact Text.byteLength_lt_append front (by simp [hne])
      have hshorter : after.length < (blanks ++ items).length := by
        have hpos := List.length_pos_iff.2 hne
        simp only [← happend, List.length_append]
        omega
      obtain ⟨body', after', hafter, hlevels', hgoes'⟩ :=
        @ih after.length hshorter (front ++ blanks ++ body) after nested
          (by rw [List.append_assoc, happend, htext']) rfl
      refine ⟨blanks ++ body ++ body', after', ?_, by rw [hlevels', hlevels, hscan],
        fun nodes => ?_⟩
      · rw [List.append_assoc, List.append_assoc, hafter, happend]
      · have hrest := hgoes' (nodes ++ more)
        rw [hscan, hnodes]
        simp only [List.append_assoc] at hrest hgoes hturn ⊢
        exact goes_readNodes_turn hpass hgoes hturn hrest

/-! ### A cursor within a character -/

/-- An escape that takes the first byte of a longer character with it. -/
def escapedLong : List Char := ['\\', 'é']

/-- Behind the escape the head is read on from within the character. -/
theorem run_passHead_escapedLong :
    (passHead escapedLong 0).run {} = some (.endOfText, ⟨3, [.moved 0 2, .moved 2 3]⟩) := by
  have hend : (passHead escapedLong 0).run ⟨3, [.moved 0 2, .moved 2 3]⟩ =
      some (.endOfText, ⟨3, [.moved 0 2, .moved 2 3]⟩) := by
    rw [passHead]
    rfl
  have hwithin : (passHead escapedLong 0).run ⟨2, [.moved 0 2]⟩ =
      some (.endOfText, ⟨3, [.moved 0 2, .moved 2 3]⟩) := by
    rw [passHead]
    exact hend
  rw [passHead]
  exact hwithin

/-- The reader reads the escape as a declaration, and its cursor was within the character. -/
theorem run_readNodes_escapedLong :
    (readNodes escapedLong false []).run {} = some ([declarationNode escapedLong],
      ⟨3, [.moved 0 2, .moved 2 3, .sliced escapedLong 0 3, .turned 0 3]⟩) := by
  have hblanks : (passBlanks escapedLong).run {} = some ((), {}) := by
    rw [passBlanks]
    rfl
  have hend (nodes : List Node) (events : List ByteReader.Event) :
      (readNodes escapedLong false nodes).run ⟨3, events⟩ = some (nodes, ⟨3, events⟩) := by
    rw [readNodes, passBlanks, readItem]
    rfl
  have hbehind (s : State) : (readBehind escapedLong (Text.trim escapedLong) .endOfText).run s =
      some ([declarationNode escapedLong], s) := by
    rw [readBehind]
    rfl
  have hitem : (readItem escapedLong false).run {} = some (some [declarationNode escapedLong],
      ⟨3, [.moved 0 2, .moved 2 3, .sliced escapedLong 0 3]⟩) := by
    rw [readItem]
    refine run_bind_of rfl (run_bind_of rfl (run_bind_of rfl
      (run_bind_of run_passHead_escapedLong (run_bind_of rfl (run_bind_of rfl ?_)))))
    exact run_bind_of (hbehind _) rfl
  rw [readNodes]
  exact run_bind_of rfl (run_bind_of hblanks (run_bind_of hitem (hend _ _)))

/-! ### Whole texts -/

/-- On every text the reader comes to an end, and answers the nodes of the stylesheet. On its way it
cuts all stretches between characters, its cursor never goes back and never leaves the text, and
each turn that does not end a list of nodes moves it forward. The cursor may stand within a
character. -/
theorem readNodes_parse :
    (∀ (source : String) (file : Option Path), ∃ last,
      (readNodes source.toList false []).run {} = some ((parse source file).nodes, last) ∧
        follow 0 last.events = some last.cursor ∧ ∀ e ∈ last.events, e.Allowed source.toList) ∧
    ∃ source nodes last i j, (readNodes source false []).run {} = some (nodes, last) ∧
      .moved i j ∈ last.events ∧ ¬Text.IsBoundary source j := by
  refine ⟨fun source file => ?_,
    escapedLong, _, _, 0, 2, run_readNodes_escapedLong, by simp, by decide⟩
  have hnodes : (parse source file).nodes =
      nodesHere false (levelsOf (Token.scan source.toList)) := rfl
  obtain ⟨body, after, -, -, hgoes⟩ := @readsNodes source.toList [] source.toList false rfl
  rw [hnodes]
  exact (hgoes []).exists_run

end StylesheetAssets.Stylesheet.Bytewise
