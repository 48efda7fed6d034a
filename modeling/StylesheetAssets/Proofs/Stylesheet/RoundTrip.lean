import StylesheetAssets.Proofs.Stylesheet.Gaps
import StylesheetAssets.Proofs.Stylesheet.WrittenForm

/-!
Reading undoes printing on well-formed trees.
-/
namespace StylesheetAssets.Stylesheet

/-- The start of a declaration or a selector: neither of an at-rule nor of a comment. -/
structure StartsPlainly (head : List Char) : Prop where
  noAtRule : ¬['@'] <+: head
  noComment : ¬['/', '*'] <+: head

instance (head : List Char) : Decidable (StartsPlainly head) :=
  decidable_of_iff (¬['@'] <+: head ∧ ¬['/', '*'] <+: head)
    ⟨fun h => ⟨h.1, h.2⟩, fun h => ⟨h.noAtRule, h.noComment⟩⟩

structure IsDeclaration (property value : String) : Prop where
  propertyTrimmed : Text.trim property.toList = property.toList
  valueTrimmed : Text.trim value.toList = value.toList
  notBothEmpty : ¬(property = "" ∧ value = "")
  noColon : ':' ∉ property.toList
  closed : IsClosed (declarationHead property value).toList
  start : StartsPlainly (declarationHead property value).toList

instance (property value : String) : Decidable (IsDeclaration property value) :=
  decidable_of_iff (Text.trim property.toList = property.toList ∧
      Text.trim value.toList = value.toList ∧ ¬(property = "" ∧ value = "") ∧
      ':' ∉ property.toList ∧ IsClosed (declarationHead property value).toList ∧
      StartsPlainly (declarationHead property value).toList)
    ⟨fun ⟨h₁, h₂, h₃, h₄, h₅, h₆⟩ => ⟨h₁, h₂, h₃, h₄, h₅, h₆⟩,
      fun ⟨h₁, h₂, h₃, h₄, h₅, h₆⟩ => ⟨h₁, h₂, h₃, h₄, h₅, h₆⟩⟩

structure IsSelector (selector : String) : Prop where
  trimmed : Text.trim selector.toList = selector.toList
  closed : IsClosed selector.toList
  start : StartsPlainly selector.toList

instance (selector : String) : Decidable (IsSelector selector) :=
  decidable_of_iff (Text.trim selector.toList = selector.toList ∧ IsClosed selector.toList ∧
      StartsPlainly selector.toList)
    ⟨fun ⟨h₁, h₂, h₃⟩ => ⟨h₁, h₂, h₃⟩, fun ⟨h₁, h₂, h₃⟩ => ⟨h₁, h₂, h₃⟩⟩

/-- A name and parameters that the head of an at-rule is split into again. -/
structure SplitsBack (name params : String) : Prop where
  nameChars : ∀ c ∈ name.toList, endsName c = false
  paramsTrimmed : Text.trim params.toList = params.toList
  headTrimmed : Text.trim (atRuleHead name params).toList = (atRuleHead name params).toList

structure IsAtRule (name params : String) : Prop extends SplitsBack name params where
  closed : IsClosed (atRuleHead name params).toList

instance (name params : String) : Decidable (IsAtRule name params) :=
  decidable_of_iff (name.toList.all (!endsName ·) = true ∧
      Text.trim params.toList = params.toList ∧
      Text.trim (atRuleHead name params).toList = (atRuleHead name params).toList ∧
      IsClosed (atRuleHead name params).toList)
    ⟨fun ⟨h₁, h₂, h₃, h₄⟩ => ⟨⟨by simpa using h₁, h₂, h₃⟩, h₄⟩,
      fun ⟨⟨h₁, h₂, h₃⟩, h₄⟩ => ⟨by simpa using h₁, h₂, h₃, h₄⟩⟩

mutual

/-- Trees that say nothing that their written form could be misread for. -/
def Node.WellFormed : Node → Prop
  | .comment text => IsCommentText text
  | .declaration property value => IsDeclaration property value
  | .atStatement name params => IsAtRule name params
  | .rule selector nodes => IsSelector selector ∧ AllWellFormed nodes
  | .atBlock name params nodes => IsAtRule name params ∧ AllWellFormed nodes

def AllWellFormed : List Node → Prop
  | [] => True
  | node :: rest => node.WellFormed ∧ AllWellFormed rest

end

mutual

instance decidableWellFormed : (node : Node) → Decidable node.WellFormed
  | .comment text => inferInstanceAs (Decidable (IsCommentText text))
  | .declaration property value => inferInstanceAs (Decidable (IsDeclaration property value))
  | .atStatement name params => inferInstanceAs (Decidable (IsAtRule name params))
  | .rule _ nodes => @instDecidableAnd _ _ _ (decidableAllWellFormed nodes)
  | .atBlock _ _ nodes => @instDecidableAnd _ _ _ (decidableAllWellFormed nodes)

instance decidableAllWellFormed : (nodes : List Node) → Decidable (AllWellFormed nodes)
  | [] => .isTrue trivial
  | node :: rest => @instDecidableAnd _ _ (decidableWellFormed node) (decidableAllWellFormed rest)

end

theorem SplitsBack.splitAtRule_eq {name params : String} (h : SplitsBack name params) :
    splitAtRule (atRuleBody name params) = (name, params) := by
  have hends : ∀ c, (if params.isEmpty then [] else ' ' :: params.toList).head? = some c →
      endsName c = true := by
    intro c hc
    split_ifs at hc
    · cases hc
    · cases hc
      rfl
  rw [atRuleBody, splitAtRule_append h.nameChars hends, String.ofList_toList]
  congr 1
  split_ifs with hempty
  · rw [String.isEmpty_iff.1 hempty]
    rfl
  · have htrim : Text.trim (' ' :: params.toList) = params.toList :=
      (Text.trim_blank_cons _).trans h.paramsTrimmed
    exact (congrArg String.ofList htrim).trans String.ofList_toList

theorem SplitsBack.readsBack {name params : String} (h : SplitsBack name params) {pad : List Char}
    (hpad : IsClosed ((atRuleHead name params).toList ++ pad)) :
    ReadsBack (atRuleHead name params).toList pad := by
  refine ⟨h.headTrimmed, ?_, hpad⟩
  rw [toList_atRuleHead]
  exact fun hprefix => absurd (List.cons_prefix_cons.1 hprefix).1 (by decide)

theorem SplitsBack.statementReads {name params : String} (h : SplitsBack name params)
    (hclosed : IsClosed (atRuleHead name params).toList) :
    StatementReads (atRuleHead name params) (.atStatement name params) := by
  refine ⟨h.readsBack (by simpa using hclosed), ?_⟩
  rw [toList_atRuleHead, statementNode?, h.splitAtRule_eq]

theorem SplitsBack.blockReads {name params : String} (h : SplitsBack name params)
    (hclosed : IsClosed ((atRuleHead name params).toList ++ [' '])) :
    BlockReads (atRuleHead name params) (.atBlock name params) := by
  refine ⟨h.readsBack hclosed, fun nodes => ?_⟩
  rw [toList_atRuleHead, blockNode, h.splitAtRule_eq]

theorem IsDeclaration.trimmed {property value : String} (h : IsDeclaration property value) :
    Text.trim (declarationHead property value).toList =
      (declarationHead property value).toList := by
  rw [toList_declarationHead]
  split_ifs with hvalue
  · rw [List.append_nil, h.propertyTrimmed]
  · have hfront : (property.toList ++ [':', ' ']).dropWhile Text.isBlank =
        property.toList ++ [':', ' '] := by
      rw [List.dropWhile_append, Text.dropWhile_eq_self_of_trimBy h.propertyTrimmed]
      split_ifs with hproperty
      · rw [List.isEmpty_iff.1 hproperty]
        rfl
      · rfl
    have htrim := Text.trimBy_append hfront (by simp)
      (Text.rdropWhile_eq_self_of_trimBy h.valueTrimmed) (by simpa using hvalue)
    rwa [List.append_assoc] at htrim

theorem IsDeclaration.declarationNode_eq {property value : String}
    (h : IsDeclaration property value) :
    declarationNode (declarationHead property value).toList = .declaration property value := by
  rw [toList_declarationHead]
  split_ifs with hvalue
  · rw [List.append_nil, declarationNode_of_not_mem h.noColon, String.ofList_toList,
      String.isEmpty_iff.1 hvalue]
  · have htrim : Text.trim (' ' :: value.toList) = value.toList :=
      (Text.trim_blank_cons _).trans h.valueTrimmed
    rw [declarationNode_append h.noColon, h.propertyTrimmed, String.ofList_toList]
    exact congrArg _ ((congrArg String.ofList htrim).trans String.ofList_toList)

theorem IsDeclaration.head_ne_nil {property value : String} (h : IsDeclaration property value) :
    (declarationHead property value).toList ≠ [] := by
  rw [toList_declarationHead]
  split_ifs with hvalue
  · rw [List.append_nil]
    exact fun hnil => h.notBothEmpty ⟨String.toList_eq_nil_iff.1 hnil, String.isEmpty_iff.1 hvalue⟩
  · simp

theorem IsDeclaration.reads {property value : String} (h : IsDeclaration property value) :
    StatementReads (declarationHead property value) (.declaration property value) := by
  refine ⟨⟨h.trimmed, h.start.noComment, by simpa using h.closed⟩, ?_⟩
  rw [statementNode?_of_not_atRule h.head_ne_nil h.start.noAtRule, h.declarationNode_eq]

theorem selectorReads {selector : String} (htrim : Text.trim selector.toList = selector.toList)
    (hclosed : IsClosed (selector.toList ++ [' '])) (hstart : StartsPlainly selector.toList) :
    BlockReads selector (.rule selector) := by
  refine ⟨⟨htrim, hstart.noComment, hclosed⟩, fun nodes => ?_⟩
  rw [blockNode_of_not_atRule hstart.noAtRule, String.ofList_toList]

mutual

theorem Node.WellFormed.readable {node : Node} (h : node.WellFormed) : node.Readable := by
  cases node with
  | comment text => exact h
  | declaration property value => exact h.reads
  | atStatement name params => exact h.statementReads h.closed
  | rule selector nodes =>
    exact ⟨selectorReads h.1.trimmed (h.1.closed.append_gap isGap_blank) h.1.start,
      AllWellFormed.readable h.2⟩
  | atBlock name params nodes =>
    exact ⟨h.1.blockReads (h.1.closed.append_gap isGap_blank), AllWellFormed.readable h.2⟩

theorem AllWellFormed.readable {nodes : List Node} (h : AllWellFormed nodes) :
    AllReadable nodes := by
  cases nodes with
  | nil => trivial
  | cons node nodes => exact ⟨h.1.readable, AllWellFormed.readable h.2⟩

end

/-- A well-formed tree is what its written form reads as. -/
theorem parse_print {nodes : List Node} (h : AllWellFormed nodes) (file : Option Path) :
    parse (print nodes) file = ⟨nodes, file⟩ := by
  rw [parse, h.readable.parseNodes_print]

/-- A tree with nodes of every kind, among them empty heads and texts that end nothing because they
are quoted or escaped. -/
def variedTree : List Node := [
  .comment "a * b /",
  .atStatement "import" "\"a;b.css\" screen",
  .atBlock "media" "(min-width: 10px)" [
    .rule ".a::after" [
      .declaration "content" "\"\x7d\\\"\"",
      .declaration "background" "url(data:image/png;base64,AA==)",
      .declaration "" "x",
      .declaration "--y" ""],
    .rule "" []],
  .atBlock "" "" [],
  .declaration "\\;" "/* ; */ )"]

theorem parse_print_variedTree :
    AllWellFormed variedTree ∧
      parse (print variedTree) (some ⟨"/a.css"⟩) = ⟨variedTree, some ⟨"/a.css"⟩⟩ := by
  have hformed : AllWellFormed variedTree := by decide +kernel
  exact ⟨hformed, parse_print hformed _⟩

end StylesheetAssets.Stylesheet
