import Mathlib.Data.List.Infix
import Mathlib.Tactic.SplitIfs
import StylesheetAssets.Proofs.Stylesheet.ClosedHead
import StylesheetAssets.Proofs.Text.Splitting
import StylesheetAssets.Stylesheet.Printer

/-!
Trees whose written form reads back as the tree: each node is written as its own tokens, and its
tokens build it again.
-/
namespace StylesheetAssets.Stylesheet

/-- A head that is read as it is written, with `pad` between it and what ends it. -/
structure ReadsBack (head pad : List Char) : Prop where
  trimmed : Text.trim head = head
  noComment : ¬['/', '*'] <+: head
  closed : IsClosed (head ++ pad)

theorem ReadsBack.ne_comment {c : Char} {cs pad : List Char} (h : ReadsBack (c :: cs) pad)
    {tail : List Char} (htail : tail.head? ≠ some '*') (more : List Char) :
    c :: (cs ++ tail) ≠ '/' :: '*' :: more := by
  intro hmore
  obtain ⟨rfl, hrest⟩ := List.cons.inj hmore
  cases cs with
  | nil =>
    rw [List.nil_append] at hrest
    exact htail (by rw [hrest, List.head?_cons])
  | cons d cs =>
    obtain ⟨rfl, -⟩ := List.cons.inj hrest
    exact h.noComment ⟨cs, rfl⟩

/-- Where a head starts, it is read as a head. -/
theorem ReadsBack.scan_eq {c : Char} {cs pad : List Char} (h : ReadsBack (c :: cs) pad)
    {tail : List Char} (htail : tail.head? ≠ some '*') :
    Token.scan (c :: (cs ++ tail)) =
      (scanHead (c :: (cs ++ tail))).1 :: Token.scan (scanHead (c :: (cs ++ tail))).2 := by
  have hstop : ¬HeadState.stops {} c = true := fun hstop => by
    have hpasses := h.closed.passes
    simp [splitHead, hstop] at hpasses
  have hstart : HeadState.AtRest {} := isClosed_nil.ended
  rw [hstart.stops_iff] at hstop
  have hblank : ¬Text.isAsciiBlank c = true := fun hc => by
    have hfront := Text.not_of_dropWhile_eq_self (Text.dropWhile_eq_self_of_trimBy h.trimmed)
    rw [Text.isBlank_of_isAsciiBlank hc] at hfront
    cases hfront
  rw [scan_cons (h.ne_comment htail), if_neg (by tauto), if_neg (by tauto)]

theorem ReadsBack.scan_statement {head : List Char} (h : ReadsBack head []) (hne : head ≠ [])
    (rest : List Char) :
    Token.scan (head ++ ';' :: rest) = .statement head :: Token.scan rest := by
  obtain ⟨c, cs, rfl⟩ := List.exists_cons_of_ne_nil hne
  have hclosed : IsClosed (c :: cs) := by simpa using h.closed
  have hhead := hclosed.scanHead_semicolon rest
  rw [List.cons_append] at hhead ⊢
  rw [h.scan_eq (by simp), hhead, h.trimmed]

theorem ReadsBack.scan_opening {head : List Char} (h : ReadsBack head [' ']) (rest : List Char) :
    Token.scan (head ++ ' ' :: '{' :: rest) = .opening head :: Token.scan rest := by
  cases head with
  | nil =>
    rw [List.nil_append, scan_skipped (.inl rfl), scan_cons (by simp), if_neg (by decide),
      if_neg (by decide), scanHead_brace]
  | cons c cs =>
    have htrim : Text.trim (c :: cs ++ [' ']) = c :: cs := Text.trim_concat_blank h.trimmed
    have hhead := h.closed.scanHead_brace rest
    rw [htrim, List.append_assoc, List.cons_append, List.singleton_append] at hhead
    rw [List.cons_append, h.scan_eq (by simp), hhead]

/-! ### Heads as text -/

/-- A character that ends the name of an at-rule. -/
def endsName (c : Char) : Bool := Text.isAsciiBlank c || c == '(' || c == '"' || c == '\''

theorem splitAtRule_append {name rest : List Char} (hname : ∀ c ∈ name, endsName c = false)
    (hrest : ∀ c, rest.head? = some c → endsName c = true) :
    splitAtRule (name ++ rest) = (String.ofList name, String.ofList (Text.trim rest)) := by
  have hsplit : splitAtRule (name ++ rest) =
      (String.ofList (Text.splitAt endsName (name ++ rest)).1,
        String.ofList (Text.trim (Text.splitAt endsName (name ++ rest)).2)) := rfl
  rw [hsplit, Text.splitAt_eq hname hrest]

/-- The head of an at-rule, behind its `@`. -/
def atRuleBody (name params : String) : List Char :=
  name.toList ++ if params.isEmpty then [] else ' ' :: params.toList

theorem toList_atRuleHead (name params : String) :
    (atRuleHead name params).toList = '@' :: atRuleBody name params := by
  unfold atRuleHead atRuleBody
  split_ifs <;> simp

theorem toList_declarationHead (property value : String) :
    (declarationHead property value).toList =
      property.toList ++ if value.isEmpty then [] else ':' :: ' ' :: value.toList := by
  unfold declarationHead
  split_ifs <;> simp

/-- A declaration ends its property at the first colon. -/
theorem declarationNode_append {property : List Char} (h : ':' ∉ property) (value : List Char) :
    declarationNode (property ++ ':' :: value) =
      .declaration (String.ofList (Text.trim property)) (String.ofList (Text.trim value)) := by
  have hchars : ∀ c ∈ property, (c == ':') = false := fun c hc =>
    beq_eq_false_iff_ne.2 fun hcolon => h (hcolon ▸ hc)
  rw [declarationNode, Text.splitAt_eq hchars (by simp)]
  rfl

theorem declarationNode_of_not_mem {head : List Char} (h : ':' ∉ head) :
    declarationNode head = .declaration (String.ofList head) "" := by
  have hchars : ∀ c ∈ head, (c == ':') = false := fun c hc =>
    beq_eq_false_iff_ne.2 fun hcolon => h (hcolon ▸ hc)
  have hsplit := Text.splitAt_eq hchars (t := []) (by simp)
  rw [List.append_nil] at hsplit
  rw [declarationNode, hsplit]

/-- A statement whose head does not start like an at-rule is a declaration. -/
theorem statementNode?_of_not_atRule {head : List Char} (hne : head ≠ []) (h : ¬['@'] <+: head) :
    statementNode? head = some (declarationNode head) := by
  obtain ⟨c, cs, rfl⟩ := List.exists_cons_of_ne_nil hne
  have hc : c ≠ '@' := by
    rintro rfl
    exact h ⟨cs, rfl⟩
  unfold statementNode?
  split
  · next hnil => cases hnil
  · next body hbody => exact absurd (List.cons.inj hbody).1 hc
  · rfl

theorem blockNode_of_not_atRule {head : List Char} (h : ¬['@'] <+: head) (nodes : List Node) :
    blockNode head nodes = .rule (String.ofList head) nodes := by
  unfold blockNode
  split
  · exact absurd ⟨_, rfl⟩ h
  · rfl

/-! ### Nodes and their tokens -/

mutual

def Node.tokens : Node → List Token
  | .comment text => [.comment text.toList]
  | .declaration property value => [.statement (declarationHead property value).toList]
  | .atStatement name params => [.statement (atRuleHead name params).toList]
  | .rule selector nodes => .opening selector.toList :: (tokensOfAll nodes ++ [.closing])
  | .atBlock name params nodes =>
    .opening (atRuleHead name params).toList :: (tokensOfAll nodes ++ [.closing])

def tokensOfAll : List Node → List Token
  | [] => []
  | node :: rest => node.tokens ++ tokensOfAll rest

end

/-- The head of a statement, read as the node it was written for. -/
structure StatementReads (head : String) (node : Node) : Prop where
  readsBack : ReadsBack head.toList []
  node_eq : statementNode? head.toList = some node

/-- The head of a block, read as the node it was written for. -/
structure BlockReads (head : String) (node : List Node → Node) : Prop where
  readsBack : ReadsBack head.toList [' ']
  node_eq : ∀ nodes, blockNode head.toList nodes = node nodes

theorem StatementReads.ne_nil {head : String} {node : Node} (h : StatementReads head node) :
    head.toList ≠ [] := by
  intro hnil
  have hnode := h.node_eq
  rw [hnil] at hnode
  cases hnode

/-- The text of a comment is trimmed and does not end the comment. -/
structure IsCommentText (text : String) : Prop where
  trimmed : Text.trim text.toList = text.toList
  noEnd : ¬['*', '/'] <:+: text.toList

instance (text : String) : Decidable (IsCommentText text) :=
  decidable_of_iff (Text.trim text.toList = text.toList ∧ ¬['*', '/'] <:+: text.toList)
    ⟨fun h => ⟨h.1, h.2⟩, fun h => ⟨h.trimmed, h.noEnd⟩⟩

mutual

/-- Nodes that are read as they are written. -/
def Node.Readable : Node → Prop
  | .comment text => IsCommentText text
  | .declaration property value =>
    StatementReads (declarationHead property value) (.declaration property value)
  | .atStatement name params => StatementReads (atRuleHead name params) (.atStatement name params)
  | .rule selector nodes => BlockReads selector (.rule selector) ∧ AllReadable nodes
  | .atBlock name params nodes =>
    BlockReads (atRuleHead name params) (.atBlock name params) ∧ AllReadable nodes

def AllReadable : List Node → Prop
  | [] => True
  | node :: rest => node.Readable ∧ AllReadable rest

end

theorem scan_indent (depth : Nat) (rest : List Char) :
    Token.scan ((indent depth).toList ++ rest) = Token.scan rest := by
  rw [indent, String.toList_ofList]
  induction 2 * depth with
  | zero => rfl
  | succ n ih => rw [List.replicate_succ, List.cons_append, scan_skipped (.inl rfl), ih]

theorem scan_newline (rest : List Char) : Token.scan ('\n' :: rest) = Token.scan rest :=
  scan_skipped (.inl rfl) rest

theorem IsCommentText.scan_eq {text : String} (h : IsCommentText text) (rest : List Char) :
    Token.scan ('/' :: '*' :: ' ' :: (text.toList ++ ' ' :: '*' :: '/' :: rest)) =
      .comment text.toList :: Token.scan rest := by
  have hnoEnd : ¬['*', '/'] <:+: ' ' :: (text.toList ++ [' ']) := by
    rw [List.infix_cons_iff, List.infix_concat_iff]
    rintro (hfront | hback | hinside)
    · exact absurd (List.cons_prefix_cons.1 hfront).1 (by decide)
    · have hlast := hback.getLast (by simp)
      simp at hlast
    · exact h.noEnd hinside
  have hsplit := splitComment_of_not_isInfix hnoEnd rest
  simp only [List.cons_append, List.append_assoc, List.nil_append] at hsplit
  have htrim : Text.trim (' ' :: (text.toList ++ [' '])) = text.toList :=
    (Text.trim_blank_cons _).trans (Text.trim_concat_blank h.trimmed)
  rw [scan_comment hsplit]
  exact congrArg (Token.comment · :: Token.scan rest) htrim

theorem scan_statementLine {head : String} {node : Node} (h : StatementReads head node)
    (depth : Nat) (rest : List Char) :
    Token.scan ((indent depth ++ head ++ ";\n").toList ++ rest) =
      .statement head.toList :: Token.scan rest := by
  have htext : (indent depth ++ head ++ ";\n").toList ++ rest =
      (indent depth).toList ++ (head.toList ++ ';' :: '\n' :: rest) := by simp
  rw [htext, scan_indent, h.readsBack.scan_statement h.ne_nil, scan_newline]

theorem scan_openingLine {head : String} {node : List Node → Node} (h : BlockReads head node)
    (depth : Nat) (rest : List Char) :
    Token.scan ((indent depth ++ head ++ " \x7b\n").toList ++ rest) =
      .opening head.toList :: Token.scan rest := by
  have htext : (indent depth ++ head ++ " \x7b\n").toList ++ rest =
      (indent depth).toList ++ (head.toList ++ ' ' :: '{' :: '\n' :: rest) := by simp
  rw [htext, scan_indent, h.readsBack.scan_opening, scan_newline]

theorem scan_closingLine (depth : Nat) (rest : List Char) :
    Token.scan ((indent depth ++ "\x7d\n").toList ++ rest) = .closing :: Token.scan rest := by
  have htext : (indent depth ++ "\x7d\n").toList ++ rest =
      (indent depth).toList ++ '}' :: '\n' :: rest := by simp
  rw [htext, scan_indent, scan_closing, scan_newline]

/-- A block is written as its head, its nodes and its closing brace. -/
theorem scan_block {head : String} {node : List Node → Node} (h : BlockReads head node)
    {depth : Nat} {nodes : List Node}
    (hnodes : ∀ rest, Token.scan ((printNodes (depth + 1) nodes).toList ++ rest) =
      tokensOfAll nodes ++ Token.scan rest) (rest : List Char) :
    Token.scan ((indent depth ++ head ++ " \x7b\n" ++ printNodes (depth + 1) nodes ++
        indent depth ++ "\x7d\n").toList ++ rest) =
      .opening head.toList :: (tokensOfAll nodes ++ [.closing]) ++ Token.scan rest := by
  have htext : (indent depth ++ head ++ " \x7b\n" ++ printNodes (depth + 1) nodes ++
        indent depth ++ "\x7d\n").toList ++ rest =
      (indent depth ++ head ++ " \x7b\n").toList ++ ((printNodes (depth + 1) nodes).toList ++
        ((indent depth ++ "\x7d\n").toList ++ rest)) := by simp
  rw [htext, scan_openingLine h, hnodes, scan_closingLine]
  simp

mutual

/-- A node is written as its tokens, whatever is written behind it. -/
theorem scan_printNode {node : Node} (h : node.Readable) (depth : Nat) (rest : List Char) :
    Token.scan ((printNode depth node).toList ++ rest) = node.tokens ++ Token.scan rest := by
  cases node with
  | comment text =>
    have htext : (printNode depth (.comment text)).toList ++ rest = (indent depth).toList ++
        '/' :: '*' :: ' ' :: (text.toList ++ ' ' :: '*' :: '/' :: '\n' :: rest) := by
      simp [printNode]
    rw [htext, scan_indent, IsCommentText.scan_eq h, scan_newline]
    rfl
  | declaration property value => exact scan_statementLine h depth rest
  | atStatement name params => exact scan_statementLine h depth rest
  | rule selector nodes => exact scan_block h.1 (scan_printNodes h.2 (depth + 1)) rest
  | atBlock name params nodes => exact scan_block h.1 (scan_printNodes h.2 (depth + 1)) rest

theorem scan_printNodes {nodes : List Node} (h : AllReadable nodes) (depth : Nat)
    (rest : List Char) :
    Token.scan ((printNodes depth nodes).toList ++ rest) =
      tokensOfAll nodes ++ Token.scan rest := by
  cases nodes with
  | nil => rfl
  | cons node nodes =>
    rw [printNodes, String.toList_append, List.append_assoc, scan_printNode h.1,
      scan_printNodes h.2, tokensOfAll, List.append_assoc]

end

mutual

/-- The tokens of a node put it in front of what is there. -/
theorem foldr_tokens {node : Node} (h : node.Readable) (l : Levels) :
    node.tokens.foldr Levels.add l = l.push node := by
  cases node with
  | comment text =>
    simp [Node.tokens, Levels.add]
  | declaration property value => simp only [Node.tokens, List.foldr, Levels.add, h.node_eq]
  | atStatement name params => simp only [Node.tokens, List.foldr, Levels.add, h.node_eq]
  | rule selector nodes =>
    rw [Node.tokens, List.foldr_cons, List.foldr_append, foldr_tokensOfAll h.2]
    simp [Levels.add, h.1.node_eq, Levels.push]
  | atBlock name params nodes =>
    rw [Node.tokens, List.foldr_cons, List.foldr_append, foldr_tokensOfAll h.2]
    simp [Levels.add, h.1.node_eq, Levels.push]

theorem foldr_tokensOfAll {nodes : List Node} (h : AllReadable nodes) (l : Levels) :
    (tokensOfAll nodes).foldr Levels.add l = { l with current := nodes ++ l.current } := by
  cases nodes with
  | nil => rfl
  | cons node nodes =>
    rw [tokensOfAll, List.foldr_append, foldr_tokensOfAll h.2, foldr_tokens h.1]
    rfl

end

/-- Readable nodes are what their written form reads as. -/
theorem AllReadable.parseNodes_print {nodes : List Node} (h : AllReadable nodes) :
    parseNodes (print nodes).toList = nodes := by
  have hscan := scan_printNodes h 0 []
  rw [List.append_nil, scan_nil, List.append_nil] at hscan
  rw [parseNodes, print, hscan, nodesOfTokens, foldr_tokensOfAll h]
  simp [Levels.toNodes]

end StylesheetAssets.Stylesheet
