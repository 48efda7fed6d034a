import StylesheetAssets.Proofs.Stylesheet.Terminated

/-!
What a text says apart from its layout: white space, and the marks that end nodes, divide
declarations or enclose comments. Reading keeps it, however malformed the text is, and so does
printing what was read.
-/
namespace StylesheetAssets.Stylesheet

/-- White space and the marks that printing sets in its own way. -/
def isLayout (c : Char) : Bool :=
  Text.isBlank c || c == '}' || c == ';' || c == ':' || c == '*' || c == '/'

/-- A text without its layout. -/
def substance (s : List Char) : List Char := s.filter (!isLayout ·)

@[simp] theorem substance_nil : substance [] = [] := rfl

@[simp] theorem substance_append (s t : List Char) :
    substance (s ++ t) = substance s ++ substance t := List.filter_append s t

theorem substance_eq_nil {s : List Char} (h : ∀ c ∈ s, isLayout c = true) : substance s = [] :=
  List.filter_eq_nil_iff.2 fun c hc => by simp [h c hc]

theorem substance_cons_layout {c : Char} (h : isLayout c = true) (s : List Char) :
    substance (c :: s) = substance s :=
  List.filter_cons_of_neg (by simp [h])

theorem substance_cons {c : Char} (h : isLayout c = false) (s : List Char) :
    substance (c :: s) = c :: substance s :=
  List.filter_cons_of_pos (by simp [h])

theorem isLayout_of_isBlank {c : Char} (h : Text.isBlank c = true) : isLayout c = true := by
  simp [isLayout, h]

@[simp] theorem substance_trim (s : List Char) : substance (Text.trim s) = substance s := by
  obtain ⟨front, back, hs, hfront, hback⟩ := Text.exists_pad Text.isBlank s
  have hfront' := substance_eq_nil fun c hc => isLayout_of_isBlank (hfront c hc)
  have hback' := substance_eq_nil fun c hc => isLayout_of_isBlank (hback c hc)
  calc substance (Text.trim s)
      = substance (front ++ Text.trimBy Text.isBlank s ++ back) := by
        simp [hfront', hback', Text.trim]
    _ = substance s := by rw [← hs]

/-! ### Tokens -/

def Token.words : Token → List Char
  | .comment text => text
  | .opening head => head ++ ['{']
  | .statement head => head
  | .closing => []

/-- A head takes its characters from the text, together with the mark that ended it. -/
theorem substance_scanHead (cs : List Char) :
    substance (scanHead cs).1.words ++ substance (scanHead cs).2 = substance cs := by
  have hsplit := congrArg substance (splitHead_append {} cs)
  unfold scanHead
  generalize splitHead {} cs = p at hsplit ⊢
  obtain ⟨head, rest⟩ := p
  rw [substance_append] at hsplit
  dsimp only at hsplit ⊢
  split
  · next rest =>
    rw [← hsplit, Token.words, substance_append, substance_trim, List.append_assoc,
      ← substance_append]
    rfl
  · next rest =>
    rw [← hsplit, Token.words, substance_trim, substance_cons_layout rfl]
  · rw [← hsplit, Token.words, substance_trim]

/-- Nothing that a text says is missing from its tokens. -/
theorem substance_scan (cs : List Char) :
    substance ((Token.scan cs).flatMap Token.words) = substance cs := by
  fun_induction Token.scan cs with
  | case1 => rfl
  | case2 rest body after h _ ih =>
    rw [List.flatMap_cons, substance_append, ih, Token.words, substance_trim,
      ← append_of_splitComment h, substance_cons_layout rfl, substance_cons_layout rfl,
      substance_append, substance_cons_layout rfl, substance_cons_layout rfl]
  | case3 rest body h =>
    rw [List.flatMap_singleton, Token.words, substance_trim, eq_of_splitComment h,
      substance_cons_layout rfl, substance_cons_layout rfl]
  | case4 c rest _ hskipped ih =>
    have hc : isLayout c = true := by
      rcases Bool.or_eq_true_iff.1 hskipped with hblank | hsemicolon
      · exact isLayout_of_isBlank (Text.isBlank_of_isAsciiBlank hblank)
      · rw [of_decide_eq_true hsemicolon]
        rfl
    rw [ih, substance_cons_layout hc]
  | case5 rest _ _ ih =>
    rw [List.flatMap_cons, substance_append, ih, substance_cons_layout rfl]
    rfl
  | case6 c rest _ _ _ _ ih =>
    rw [List.flatMap_cons, substance_append, ih, substance_scanHead]

/-! ### Trees -/

mutual

/-- The texts of a node in the order in which they are written, with the marks that open at-rules
and blocks. -/
def Node.words : Node → List Char
  | .comment text => text.toList
  | .declaration property value => property.toList ++ value.toList
  | .atStatement name params => '@' :: name.toList ++ params.toList
  | .rule selector nodes => selector.toList ++ '{' :: wordsOfAll nodes
  | .atBlock name params nodes => '@' :: name.toList ++ params.toList ++ '{' :: wordsOfAll nodes

def wordsOfAll : List Node → List Char
  | [] => []
  | node :: rest => node.words ++ wordsOfAll rest

end

theorem wordsOfAll_append (nodes more : List Node) :
    wordsOfAll (nodes ++ more) = wordsOfAll nodes ++ wordsOfAll more := by
  induction nodes with
  | nil => rfl
  | cons node rest ih => rw [List.cons_append, wordsOfAll, wordsOfAll, ih, List.append_assoc]

/-- The head of an at-rule is cut into its name and its parameters. -/
theorem substance_splitAtRule (body : List Char) :
    substance ((splitAtRule body).1.toList ++ (splitAtRule body).2.toList) = substance body := by
  simp only [splitAtRule, String.toList_ofList, substance_append, substance_trim]
  rw [← substance_append, Text.splitAt_append]

theorem substance_blockNode (head : List Char) (nodes : List Node) :
    substance (blockNode head nodes).words = substance (head ++ '{' :: wordsOfAll nodes) := by
  unfold blockNode
  split
  · next body =>
    have hname := congrArg ('@' :: · ++ substance ('{' :: wordsOfAll nodes))
      (substance_splitAtRule body)
    simpa [Node.words, substance_cons (c := '@') rfl] using hname
  · rw [Node.words, String.toList_ofList]

/-- Without its colon a declaration is a property and a value. -/
theorem substance_declarationNode (head : List Char) :
    substance (declarationNode head).words = substance head := by
  have hsplit := congrArg substance (Text.splitAt_append (· == ':') head)
  unfold declarationNode
  split
  · next property value h =>
    rw [h, substance_append, substance_cons_layout rfl] at hsplit
    rw [Node.words, String.toList_ofList, String.toList_ofList, substance_append, substance_trim,
      substance_trim, hsplit]
  · rw [Node.words, String.toList_ofList]
    exact congrArg substance (List.append_nil head)

theorem substance_statementNode? (head : List Char) :
    substance (wordsOfAll (statementNode? head).toList) = substance head := by
  unfold statementNode?
  split
  · rfl
  · next body =>
    rw [Option.toList_some, wordsOfAll, wordsOfAll, List.append_nil]
    exact congrArg ('@' :: ·) (substance_splitAtRule body)
  · rw [Option.toList_some, wordsOfAll, wordsOfAll, List.append_nil, substance_declarationNode]

theorem Levels.toNodes_add_statement (head : List Char) (l : Levels) :
    (l.add (.statement head)).toNodes = (statementNode? head).toList ++ l.toNodes := by
  cases h : statementNode? head <;> simp [Levels.add, Levels.push, Levels.toNodes, h]

theorem Levels.toNodes_add_opening (head : List Char) (l : Levels) :
    (l.add (.opening head)).toNodes = blockNode head l.current :: l.outer.flatten := by
  cases houter : l.outer <;> simp [Levels.add, Levels.toNodes, houter]

/-- A token in front of levels puts its text in front of theirs. -/
theorem substance_add (token : Token) (l : Levels) :
    substance (wordsOfAll (l.add token).toNodes) =
      substance token.words ++ substance (wordsOfAll l.toNodes) := by
  cases token with
  | comment text =>
    rw [← substance_append]
    exact congrArg (fun s => substance (s ++ wordsOfAll l.toNodes)) String.toList_ofList
  | statement head =>
    rw [Token.words, ← substance_statementNode? head, ← substance_append, ← wordsOfAll_append,
      Levels.toNodes_add_statement]
  | closing => rfl
  | opening head =>
    have hbrace : '{' :: wordsOfAll l.current = ['{'] ++ wordsOfAll l.current := rfl
    rw [Levels.toNodes_add_opening, wordsOfAll, substance_append, substance_blockNode, Token.words,
      Levels.toNodes, wordsOfAll_append, hbrace]
    simp only [substance_append, List.append_assoc]

/-- Nothing that a text says is missing from its nodes. -/
theorem substance_parseNodes (source : List Char) :
    substance (wordsOfAll (parseNodes source)) = substance source := by
  rw [← substance_scan source, parseNodes, nodesOfTokens]
  induction Token.scan source with
  | nil => rfl
  | cons token rest ih =>
    rw [List.foldr_cons, substance_add, ih, List.flatMap_cons, substance_append]

/-! ### Written form -/

theorem substance_indent (depth : Nat) : substance (indent depth).toList = [] := by
  rw [indent, String.toList_ofList]
  exact substance_eq_nil fun c hc => by rw [List.eq_of_mem_replicate hc]; rfl

theorem substance_atRuleHead (name params : String) :
    substance (atRuleHead name params).toList =
      substance ('@' :: name.toList ++ params.toList) := by
  rw [toList_atRuleHead, atRuleBody, ← List.cons_append, substance_append, substance_append]
  split_ifs with hempty
  · rw [String.isEmpty_iff.1 hempty]
    rfl
  · rw [substance_cons_layout (c := ' ') rfl]

theorem substance_declarationHead (property value : String) :
    substance (declarationHead property value).toList =
      substance (property.toList ++ value.toList) := by
  rw [toList_declarationHead, substance_append, substance_append]
  split_ifs with hempty
  · rw [String.isEmpty_iff.1 hempty]
    rfl
  · rw [substance_cons_layout rfl, substance_cons_layout rfl]

/-- A line of a head without a block says what the head says. -/
theorem substance_statementLine (depth : Nat) (head : String) :
    substance (indent depth ++ head ++ ";\n").toList = substance head.toList := by
  have hend : substance ";\n".toList = [] := rfl
  simp only [String.toList_append, substance_append, substance_indent, hend, List.nil_append,
    List.append_nil]

theorem substance_block (depth : Nat) (head nodes : String) :
    substance (indent depth ++ head ++ " \x7b\n" ++ nodes ++ indent depth ++ "\x7d\n").toList =
      substance (head.toList ++ '{' :: nodes.toList) := by
  have hopen : substance " \x7b\n".toList = ['{'] := rfl
  have hclose : substance "\x7d\n".toList = [] := rfl
  simp only [String.toList_append, substance_append, substance_indent, hopen, hclose,
    substance_cons (c := '{') rfl, List.nil_append, List.append_nil, List.append_assoc,
    List.cons_append]

mutual

theorem substance_printNode (depth : Nat) (node : Node) :
    substance (printNode depth node).toList = substance node.words := by
  cases node with
  | comment text =>
    have hopen : substance "/* ".toList = [] := rfl
    have hclose : substance " */\n".toList = [] := rfl
    simp only [printNode, Node.words, String.toList_append, substance_append, substance_indent,
      hopen, hclose, List.nil_append, List.append_nil]
  | declaration property value =>
    rw [printNode, substance_statementLine, substance_declarationHead, Node.words]
  | atStatement name params =>
    rw [printNode, substance_statementLine, substance_atRuleHead, Node.words]
  | rule selector nodes =>
    rw [printNode, substance_block, Node.words, substance_append, substance_append,
      substance_cons rfl, substance_cons rfl, substance_printNodes (depth + 1) nodes]
  | atBlock name params nodes =>
    rw [printNode, substance_block, Node.words, substance_append, substance_atRuleHead,
      substance_append _ ('{' :: wordsOfAll nodes),
      substance_cons rfl, substance_cons rfl, substance_printNodes (depth + 1) nodes]

theorem substance_printNodes (depth : Nat) (nodes : List Node) :
    substance (printNodes depth nodes).toList = substance (wordsOfAll nodes) := by
  cases nodes with
  | nil => rfl
  | cons node rest =>
    rw [printNodes, String.toList_append, substance_append, substance_printNode depth node,
      substance_printNodes depth rest, wordsOfAll, substance_append]

end

/-- The nodes of a text hold what it says, in order, and so does their written form. -/
theorem substance_print_parse (source : String) (file : Option Path) :
    substance (wordsOfAll (parse source file).nodes) = substance source.toList ∧
      substance (print (parse source file).nodes).toList = substance source.toList := by
  have hnodes := substance_parseNodes source.toList
  exact ⟨hnodes, (substance_printNodes 0 _).trans hnodes⟩

end StylesheetAssets.Stylesheet
