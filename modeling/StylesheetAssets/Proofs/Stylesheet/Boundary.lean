import StylesheetAssets.Proofs.Import.Tracking
import StylesheetAssets.Proofs.Stylesheet.Terminated

/-!
The texts that end at a boundary between statements.

A complete text can be put in front of every text. No other text can: a comment and a statement
behind a text that is not complete do not both become top nodes. So the markers around an imported
text bound exactly its nodes whenever that text is complete.
-/
namespace StylesheetAssets.Stylesheet

open HeadState

/-! ### Blocks that stay open -/

/-- The number of nodes on each level. -/
def Levels.shape (l : Levels) : Nat × List Nat := (l.current.length, l.outer.map List.length)

theorem Levels.shape_push (l : Levels) (node : Node) :
    (l.push node).shape = (l.shape.1 + 1, l.shape.2) := rfl

/-- A token does to the shape of levels what that shape alone decides. -/
theorem Levels.shape_add (token : Token) {l l' : Levels} (h : l.shape = l'.shape) :
    (l.add token).shape = (l'.add token).shape := by
  cases token with
  | comment text => simp only [add, shape_push, h]
  | statement head =>
    simp only [add]
    cases statementNode? head with
    | none => exact h
    | some node => simp only [shape_push, h]
  | closing =>
    simp only [shape, Prod.mk.injEq] at h
    simp [add, shape, h]
  | opening head =>
    simp only [shape, Prod.mk.injEq] at h
    obtain ⟨-, houter⟩ := h
    simp only [add, shape, List.length_cons, Prod.mk.injEq]
    cases hl : l.outer with
    | nil =>
      rw [hl, List.map_nil, eq_comm, List.map_eq_nil_iff] at houter
      simp [houter]
    | cons next outer =>
      rw [hl, List.map_cons, eq_comm, List.map_eq_cons_iff] at houter
      obtain ⟨next', outer', hl', hnext, houter⟩ := houter
      simp [hl', hnext, houter]

/-- The shape decides how many nodes there are in all. -/
theorem Levels.length_toNodes_congr {l l' : Levels} (h : l.shape = l'.shape) :
    l.toNodes.length = l'.toNodes.length := by
  simp only [shape, Prod.mk.injEq] at h
  simp only [toNodes, List.length_append, List.length_flatten, h]

/-- Behind a block that stays open, nodes become children of that block. -/
theorem shape_foldr_add_of_not_closed {tokens : List Token} (h : ¬Closed tokens)
    {behind : Levels} (hbehind : behind.outer = []) :
    (tokens.foldr Levels.add behind).shape = (levelsOf tokens).shape := by
  induction tokens with
  | nil => exact absurd trivial h
  | cons token rest ih =>
    rw [List.foldr_cons, levelsOf_cons]
    by_cases hrest : Closed rest
    · cases token with
      | opening head =>
        have hopen : (levelsOf rest).outer = [] := by
          by_contra houter
          exact h ⟨houter, hrest⟩
        rw [hrest.foldr_add]
        simp [Levels.add, Levels.glue, Levels.shape, hopen, hbehind]
      | comment text => exact absurd hrest h
      | statement head => exact absurd hrest h
      | closing => exact absurd hrest h
    · exact Levels.shape_add token (ih hrest)

/-- The number of top nodes with one level behind a list of tokens: the nodes of that level all
count, or none of them does. -/
theorem length_toNodes_foldr_add (tokens : List Token) [Decidable (Closed tokens)]
    {behind : Levels} (h : behind.outer = []) :
    (tokens.foldr Levels.add behind).toNodes.length =
      (levelsOf tokens).toNodes.length + if Closed tokens then behind.current.length else 0 := by
  by_cases hclosed : Closed tokens
  · rw [hclosed.foldr_add, Levels.toNodes_glue, if_pos hclosed]
    simp [Levels.toNodes, h]
    omega
  · rw [if_neg hclosed, Nat.add_zero]
    exact Levels.length_toNodes_congr (shape_foldr_add_of_not_closed hclosed h)

/-! ### Tokens that run up to the end -/

/-- A comment and a statement, behind a blank that ends whatever could join with them. -/
def probe : List Char := " /**/a;".toList

theorem scanHead_probe : scanHead ['a', ';'] = (.statement ['a'], []) := by decide

theorem scan_probe : Token.scan probe = [.comment [], .statement ['a']] := by
  have hcomment : splitComment ['*', '/', 'a', ';'] = ([], some ['a', ';']) := rfl
  have hprobe : probe = [' ', '/', '*', '*', '/', 'a', ';'] := rfl
  rw [hprobe, scan_skipped (by decide), scan_comment hcomment, scan_cons (by simp),
    if_neg (by decide), if_neg (by decide), scanHead_probe, scan_nil]
  rfl

/-- A comment that is open ends inside the probe. -/
theorem splitComment_append_probe {cs body : List Char} (h : splitComment cs = (body, none)) :
    splitComment (cs ++ probe) = (cs ++ [' ', '/', '*'], some ['a', ';']) := by
  obtain ⟨rfl, hend⟩ := splitComment_eq_none_iff.1 h
  exact splitComment_append_of_noEnd hend probe fun _ => by decide

/-- A head that is open takes in the probe, up to its semicolon at least. -/
theorem splitHead_probe (s : HeadState) :
    (splitHead s probe).2 = [] ∨ (splitHead s probe).2 = [';'] := by
  have hpass (front : List Char) (hfront : ∀ c ∈ front, c ≠ '{' ∧ c ≠ ';' ∧ c ≠ '}')
      (t : HeadState) : (splitHead t front).2 = [] := by
    induction front generalizing t with
    | nil => rfl
    | cons c front ih =>
      rw [List.forall_mem_cons] at hfront
      have hstop : t.stops c = false := by simp [stops, hfront.1]
      simp [splitHead, hstop, ih hfront.2]
  have hprobe : probe = [' ', '/', '*', '*', '/', 'a'] ++ [';'] := rfl
  rw [hprobe, splitHead_append_of_passes (hpass _ (by simp) s), splitHead]
  split
  · exact .inr rfl
  · exact .inl rfl

theorem scanHead_append_probe {cs : List Char} (h : (splitHead {} cs).2 = []) :
    ∃ head, scanHead (cs ++ probe) = (.statement head, []) := by
  unfold scanHead
  rw [splitHead_append_of_passes h]
  rcases splitHead_probe (HeadState.after {} cs) with hrest | hrest
  · rw [hrest]
    exact ⟨_, rfl⟩
  · rw [hrest]
    exact ⟨_, rfl⟩

/-- How the probe is read behind a text: the tokens that both readings have in common, then those
that the text ends with alone, and those that it ends with in front of the probe. No block starts or
ends in either, and in front of the probe there is at most one node more. -/
structure Swallows (s : List Char) (common alone probed : List Token) : Prop where
  scan_eq : Token.scan s = common ++ alone
  scan_append_eq : Token.scan (s ++ probe) = common ++ probed
  alone_outer : (levelsOf alone).outer = []
  probed_outer : (levelsOf probed).outer = []
  length_le : (levelsOf probed).current.length ≤ (levelsOf alone).current.length + 1

theorem Swallows.cons {s rest : List Char} {token : Token} {common alone probed : List Token}
    (h : Swallows rest common alone probed) (hs : Token.scan s = token :: Token.scan rest)
    (happend : Token.scan (s ++ probe) = token :: Token.scan (rest ++ probe)) :
    Swallows s (token :: common) alone probed where
  scan_eq := by rw [hs, h.scan_eq, List.cons_append]
  scan_append_eq := by rw [happend, h.scan_append_eq, List.cons_append]
  alone_outer := h.alone_outer
  probed_outer := h.probed_outer
  length_le := h.length_le

theorem levelsOf_statement (head : List Char) :
    levelsOf [.statement head] = ⟨(statementNode? head).toList, []⟩ := by
  simp only [levelsOf, List.foldr_cons, List.foldr_nil, Levels.add]
  cases statementNode? head <;> rfl

theorem swallows_comment {rest body : List Char} (h : splitComment rest = (body, none)) :
    ∃ text, Swallows ('/' :: '*' :: rest) [] [.comment (Text.trim body)]
      [.comment text, .statement ['a']] := by
  refine ⟨Text.trim (rest ++ [' ', '/', '*']),
    ⟨scan_open_comment h, ?_, rfl, rfl, Nat.le_refl 2⟩⟩
  rw [List.cons_append, List.cons_append, scan_comment (splitComment_append_probe h),
    scan_cons (by simp),
    if_neg (by decide), if_neg (by decide), scanHead_probe, scan_nil]
  rfl

theorem swallows_head {c : Char} {rest : List Char}
    (hc : ¬(Text.isAsciiBlank c ∨ c = ';') ∧ c ≠ '}')
    (hcomment : ∀ more, c :: rest ≠ '/' :: '*' :: more) (h : (splitHead {} (c :: rest)).2 = []) :
    ∃ head, Swallows (c :: rest) [] [.statement (Text.trim (c :: rest))] [.statement head] := by
  obtain ⟨head, hhead⟩ := scanHead_append_probe h
  have hcommentProbe : ∀ more, c :: (rest ++ probe) ≠ '/' :: '*' :: more := by
    intro more hmore
    cases rest with
    | nil =>
      have hslash : probe = '*' :: more := (List.cons.inj hmore).2
      cases hslash
    | cons d rest =>
      simp only [List.cons_append, List.cons.injEq] at hmore
      obtain ⟨rfl, rfl, -⟩ := hmore
      exact hcomment rest rfl
  rw [List.cons_append] at hhead
  refine ⟨head, ⟨?_, ?_, ?_, ?_, ?_⟩⟩
  · rw [scan_cons hcomment, if_neg hc.1, if_neg hc.2, scanHead_of_passes h, scan_nil]
    rfl
  · rw [List.cons_append, scan_cons hcommentProbe, if_neg hc.1, if_neg hc.2, hhead, scan_nil]
    rfl
  · rw [levelsOf_statement]
  · rw [levelsOf_statement]
  · rw [levelsOf_statement, levelsOf_statement]
    cases statementNode? head <;> simp

/-- A text with a token that runs up to its end swallows a part of the probe. -/
theorem exists_swallows {s : List Char} (h : ¬Whole s) :
    ∃ common alone probed, Swallows s common alone probed := by
  fun_induction Token.scan s with
  | case1 => exact absurd .nil h
  | case2 rest body after hsplit _ ih =>
    obtain ⟨common, alone, probed, hafter⟩ := ih fun hafter => h (.comment hsplit hafter)
    exact ⟨_, _, _, hafter.cons (scan_comment hsplit)
      (scan_comment (splitComment_append hsplit probe))⟩
  | case3 rest body hsplit =>
    obtain ⟨text, hcomment⟩ := swallows_comment hsplit
    exact ⟨_, _, _, hcomment⟩
  | case4 c rest _ hskip ih =>
    have hc : Text.isAsciiBlank c ∨ c = ';' := by simpa using hskip
    obtain ⟨common, alone, probed, hrest⟩ := ih fun hrest => h (.skipped hc hrest)
    refine ⟨common, alone, probed, ?_, ?_, hrest.alone_outer, hrest.probed_outer,
      hrest.length_le⟩
    · rw [scan_skipped hc, hrest.scan_eq]
    · rw [List.cons_append, scan_skipped hc, hrest.scan_append_eq]
  | case5 rest _ _ ih =>
    obtain ⟨common, alone, probed, hrest⟩ := ih fun hrest => h (.closing hrest)
    exact ⟨_, _, _, hrest.cons (scan_closing rest) (scan_closing (rest ++ probe))⟩
  | case6 c rest hne hskip hclosing _ ih =>
    have hc : ¬(Text.isAsciiBlank c ∨ c = ';') ∧ c ≠ '}' := ⟨by simpa using hskip, hclosing⟩
    have hcomment : ∀ more, c :: rest ≠ '/' :: '*' :: more := fun more hmore =>
      hne more (List.cons.inj hmore).1 (List.cons.inj hmore).2
    by_cases hended : (splitHead {} (c :: rest)).2 = []
    · obtain ⟨head, hhead⟩ := swallows_head hc hcomment hended
      exact ⟨_, _, _, hhead⟩
    · obtain ⟨common, alone, probed, hrest⟩ := ih fun hrest => h (.head hc hcomment hended hrest)
      have hhead := scanHead_append hended probe
      refine ⟨(scanHead (c :: rest)).1 :: common, alone, probed, hrest.cons ?_ ?_⟩
      · rw [scan_cons hcomment, if_neg hc.1, if_neg hc.2]
      · rw [List.cons_append] at hhead ⊢
        rw [scan_cons (ne_comment_append hcomment hended probe), if_neg hc.1, if_neg hc.2, hhead]

/-! ### Complete texts are those that compose -/

theorem length_parseNodes_append_probe {s : List Char} (h : ¬Complete s) :
    (parseNodes (s ++ probe)).length ≤ (parseNodes s).length + 1 := by
  classical
  unfold parseNodes nodesOfTokens
  by_cases hwhole : Whole s
  · have hclosed : ¬Closed (Token.scan s) := fun hclosed => h ⟨hwhole, hclosed⟩
    have hprobe : (levelsOf [.comment [], .statement ['a']]).outer = [] := rfl
    have hlength := length_toNodes_foldr_add (Token.scan s) hprobe
    rw [if_neg hclosed] at hlength
    rw [hwhole.scan_append, scan_probe, List.foldr_append]
    exact hlength.le.trans (Nat.le_succ _)
  · obtain ⟨common, alone, probed, hswallows⟩ := exists_swallows hwhole
    have halone := length_toNodes_foldr_add common hswallows.alone_outer
    have hprobed := length_toNodes_foldr_add common hswallows.probed_outer
    have hle := hswallows.length_le
    rw [hswallows.scan_eq, hswallows.scan_append_eq, List.foldr_append, List.foldr_append]
    unfold levelsOf at halone hprobed hle
    by_cases hclosed : Closed common
    · rw [if_pos hclosed] at halone hprobed
      omega
    · rw [if_neg hclosed] at halone hprobed
      omega

theorem length_parseNodes_probe : (parseNodes probe).length = 2 := by
  rw [parseNodes, scan_probe]
  rfl

/-- One text behind it is enough to tell whether a text is complete. -/
theorem complete_iff_length_append_probe {s : List Char} :
    Complete s ↔ (parseNodes (s ++ probe)).length = (parseNodes s).length + 2 := by
  constructor
  · intro h
    rw [h.parseNodes_append, List.length_append, length_parseNodes_probe]
  · intro hlength
    by_contra h
    have hle := length_parseNodes_append_probe h
    omega

instance (s : List Char) : Decidable (Complete s) :=
  decidable_of_iff _ complete_iff_length_append_probe.symm

/-- A text can be put in front of every text, without a node of either changing, exactly when it is
complete. -/
theorem complete_iff_forall_parseNodes_append {s : List Char} :
    Complete s ↔ ∀ t, parseNodes (s ++ t) = parseNodes s ++ parseNodes t := by
  constructor
  · intro h t
    exact h.parseNodes_append t
  · intro h
    rw [complete_iff_length_append_probe, h probe, List.length_append, length_parseNodes_probe]

end StylesheetAssets.Stylesheet

namespace StylesheetAssets.Import

open Stylesheet

/-! ### Imported texts between their markers -/

/-- The node of a comment that has its end. -/
theorem parseNodes_comment {text : List Char} (h : ¬['*', '/'] <:+: text) :
    parseNodes (comment text) = [.comment (String.ofList (Text.trim text))] := by
  have hsplit := splitComment_of_not_isInfix h []
  rw [comment, parseNodes, List.cons_append, List.cons_append, scan_comment hsplit, scan_nil]
  rfl

/-- No comment ends across a text without a star and what follows that text. -/
theorem not_isInfix_append {front text : List Char} (hfront : '*' ∉ front)
    (h : ¬['*', '/'] <:+: text) : ¬['*', '/'] <:+: front ++ text := by
  induction front with
  | nil => exact h
  | cons c front ih =>
    rw [List.mem_cons, not_or] at hfront
    rw [List.cons_append, List.infix_cons_iff, not_or]
    refine ⟨?_, ih hfront.2⟩
    intro hprefix
    exact hfront.1 (List.cons_prefix_cons.1 hprefix).1

theorem not_isInfix_startFlag_append {path : List Char} (h : ¬['*', '/'] <:+: path) :
    ¬['*', '/'] <:+: startFlag ++ path := not_isInfix_append (by decide) h

theorem not_isInfix_endFlag : ¬['*', '/'] <:+: endFlag := by decide

theorem parseNodes_startMarker {path : List Char} (h : ¬['*', '/'] <:+: path) :
    parseNodes (startMarker path) =
      [.comment (String.ofList (Text.trim (startFlag ++ path)))] :=
  parseNodes_comment (not_isInfix_startFlag_append h)

theorem parseNodes_endMarker : parseNodes endMarker = [endNode] := by
  have htrim : Text.trim endFlag = endFlag := by decide
  rw [endMarker, parseNodes_comment not_isInfix_endFlag, htrim]
  rfl

/-- The nodes of a complete text between its markers, in front of any other text: the two marker
comments around the nodes of the text, and then the nodes of the other one. -/
theorem parseNodes_between_markers {path text : List Char} (hpath : ¬['*', '/'] <:+: path)
    (htext : Complete text) (rest : List Char) :
    parseNodes (startMarker path ++ text ++ endMarker ++ rest) =
      .comment (String.ofList (Text.trim (startFlag ++ path))) ::
        parseNodes text ++ endNode :: parseNodes rest := by
  have hstart : Complete (startMarker path) := complete_comment (not_isInfix_startFlag_append hpath)
  have hfinish : Complete endMarker := complete_comment not_isInfix_endFlag
  rw [List.append_assoc, List.append_assoc, hstart.parseNodes_append, htext.parseNodes_append,
    hfinish.parseNodes_append, parseNodes_startMarker hpath, parseNodes_endMarker]
  rfl

/-- Reading is compositional at the boundaries between statements. The texts that can be put in
front of every text without a node of either changing are the complete ones; and a complete text
between the markers of an import reads as its own nodes between the two marker comments, whatever
follows. -/
theorem complete_iff_parse_append (text : String) (file : Option Path) :
    (Complete text.toList ↔ ∀ rest : String,
      (parse (text ++ rest) file).nodes = (parse text file).nodes ++ (parse rest file).nodes) ∧
    (Complete text.toList → ∀ path rest : String, ¬['*', '/'] <:+: path.toList →
      (parse (String.ofList (startMarker path.toList) ++ text ++ String.ofList endMarker ++ rest)
          file).nodes =
        .comment (String.ofList (Text.trim (startFlag ++ path.toList))) ::
          (parse text file).nodes ++ endNode :: (parse rest file).nodes) := by
  simp only [parse, String.toList_append, String.toList_ofList]
  refine ⟨?_, ?_⟩
  · rw [complete_iff_forall_parseNodes_append]
    constructor
    · intro h rest
      exact h rest.toList
    · intro h rest
      simpa only [String.toList_ofList] using h (String.ofList rest)
  · intro htext path rest hpath
    exact parseNodes_between_markers hpath htext rest.toList

/-- Three top nodes, with a brace in a comment and one in a string. -/
def blocksText : String :=
  "@media print \x7b .a \x7b color: red \x7d \x7d\n/* \x7d */ b: \"\x7d\";"

/-- It reads as its own nodes even between markers and in front of a text that is not complete. -/
theorem parse_blocksText_between_markers :
    Complete blocksText.toList ∧ ¬Complete "\x7d .c \x7b d".toList ∧
      (parse (String.ofList (startMarker "sub/x.css".toList) ++ blocksText ++
          String.ofList endMarker ++ "\x7d .c \x7b d") none).nodes =
        .comment (String.ofList (Text.trim (startFlag ++ "sub/x.css".toList))) ::
          (parse blocksText none).nodes ++ endNode :: (parse "\x7d .c \x7b d" none).nodes := by
  have htext : Complete blocksText.toList := by decide +kernel
  have hpath : ¬['*', '/'] <:+: "sub/x.css".toList := by decide +kernel
  refine ⟨htext, by decide +kernel, ?_⟩
  exact (complete_iff_parse_append blocksText none).2 htext "sub/x.css" "\x7d .c \x7b d" hpath

end StylesheetAssets.Import
