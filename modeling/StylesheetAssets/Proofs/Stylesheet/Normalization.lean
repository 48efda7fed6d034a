import StylesheetAssets.Proofs.Stylesheet.Terminated

/-!
What is written for a text reads as the text's own tree, so that it is written the same way ever
after. The exceptions are heads that mean something else once they have been trimmed and split,
because a backslash was meant for what then stands elsewhere or nowhere.
-/
namespace StylesheetAssets.Stylesheet

/-! ### Heads as they are written -/

theorem IsClosed.of_blanks_append {front text : List Char} (h : IsClosed (front ++ text))
    (hfront : ∀ c ∈ front, Text.isBlank c = true) : IsClosed text := by
  by_cases hne : front = []
  · rwa [hne] at h
  · exact h.of_gap_append (isGap_blanks hne hfront)

/-- Trimmed and set apart from what follows, a closed text is still closed. -/
theorem IsClosed.trim_append_blank {raw : List Char} (h : IsClosed raw) :
    IsClosed (Text.trim raw ++ [' ']) := by
  obtain ⟨front, back, hraw, hfront, hback⟩ := Text.exists_pad Text.isBlank raw
  rw [hraw, List.append_assoc] at h
  have htext := h.of_blanks_append hfront
  by_cases hne : back = []
  · rw [hne, List.append_nil] at htext
    exact htext.append_gap isGap_blank
  · rw [← List.append_nil back, ← List.append_assoc] at htext
    have hrefilled := htext.refill (isGap_blanks hne hback) isGap_blank
    rwa [List.append_nil] at hrefilled

theorem IsClosed.trim {raw : List Char} (h : IsClosed raw)
    (hescape : endsInEscape (Text.trim raw) = false) : IsClosed (Text.trim raw) :=
  h.trim_append_blank.of_append_gap isGap_blank hescape

/-- The name of an at-rule that ends in an escape is followed by a blank. -/
def nameStandsApart : List Char → Bool
  | '@' :: body =>
    !endsInEscape ('@' :: (Text.splitAt endsName body).1) ||
      (Text.splitAt endsName body).2.head?.all Text.isAsciiBlank
  | _ => true

/-- A declaration without a value is written as its property alone, so the property has to be there,
and must not escape what ends it. -/
def Node.propertyStandsAlone : Node → Bool
  | .declaration property value =>
    !value.isEmpty || (!property.isEmpty && !endsInEscape property.toList)
  | _ => true

/-- A head that means the same after it has been trimmed, split and written. A block's head may end
in an escape, because a blank is written in front of the brace. -/
def Token.Settled : Token → Prop
  | .opening head => ¬['/', '*'] <+: head ∧ nameStandsApart head = true
  | .statement head =>
    ¬['/', '*'] <+: head ∧ nameStandsApart head = true ∧ endsInEscape head = false ∧
      (statementNode? head).all Node.propertyStandsAlone = true
  | .comment _ | .closing => True

instance : (token : Token) → Decidable token.Settled
  | .opening _ | .statement _ => inferInstanceAs (Decidable (_ ∧ _))
  | .comment _ | .closing => inferInstanceAs (Decidable True)

section AtRules

variable {name rest : List Char}

theorem toList_atRuleHead_ofList (name params : List Char) :
    (atRuleHead (String.ofList name) (String.ofList params)).toList =
      '@' :: name ++ if params = [] then [] else ' ' :: params := by
  rw [toList_atRuleHead, atRuleBody, String.toList_ofList, String.toList_ofList]
  simp [String.isEmpty_iff]

theorem rdropWhile_rest {front : List Char} (htrim : Text.trim (front ++ rest) = front ++ rest) :
    rest.rdropWhile Text.isBlank = rest :=
  Text.rdropWhile_eq_self_of_suffix (List.suffix_append front rest)
    (Text.rdropWhile_eq_self_of_trimBy htrim)

theorem splitsBack_trim (hname : ∀ c ∈ name, endsName c = false)
    (htrim : Text.trim ('@' :: name ++ rest) = '@' :: name ++ rest) :
    SplitsBack (String.ofList name) (String.ofList (Text.trim rest)) := by
  have hparams : Text.trim (Text.trim rest) = Text.trim rest := Text.trimBy_trimBy _ _
  refine ⟨by rwa [String.toList_ofList], by rwa [String.toList_ofList], ?_⟩
  rw [toList_atRuleHead_ofList]
  split_ifs with hnil
  · rwa [Text.eq_nil_of_trimBy (rdropWhile_rest htrim) hnil] at htrim
  · have hhead := Text.trimBy_append (p := Text.isBlank) (s := '@' :: name ++ [' '])
      (List.dropWhile_cons_of_neg (by decide)) (by simp)
      (Text.rdropWhile_eq_self_of_trimBy hparams) hnil
    rwa [List.append_assoc, List.singleton_append] at hhead

theorem nameStandsApart_append (hname : ∀ c ∈ name, endsName c = false)
    (hrest : ∀ c, rest.head? = some c → endsName c = true)
    (hapart : nameStandsApart ('@' :: name ++ rest) = true) :
    endsInEscape ('@' :: name) = false ∨ ∀ c, rest.head? = some c → Text.isAsciiBlank c := by
  have hsplit := Text.splitAt_eq hname hrest
  simpa [nameStandsApart, hsplit, Option.all_eq_true] using hapart

theorem isClosed_atRuleHead (hname : ∀ c ∈ name, endsName c = false)
    (hrest : ∀ c, rest.head? = some c → endsName c = true)
    (htrim : Text.trim ('@' :: name ++ rest) = '@' :: name ++ rest)
    (hapart : nameStandsApart ('@' :: name ++ rest) = true) {pad : List Char}
    (hclosed : IsClosed ('@' :: name ++ rest ++ pad)) :
    IsClosed
      ((atRuleHead (String.ofList name) (String.ofList (Text.trim rest))).toList ++ pad) := by
  have hback := rdropWhile_rest htrim
  rw [toList_atRuleHead_ofList]
  split_ifs with hnil
  · rwa [Text.eq_nil_of_trimBy hback hnil] at hclosed
  · obtain ⟨gap, hgap, hblanks⟩ := Text.exists_front hback
    change rest = gap ++ Text.trim rest at hgap
    have hhead : '@' :: name ++ ' ' :: Text.trim rest ++ pad =
        '@' :: name ++ [' '] ++ (Text.trim rest ++ pad) := by simp
    rw [hhead]
    by_cases hne : gap = []
    · -- Nothing stands between name and parameters, so the parameters end the name themselves.
      obtain ⟨c, params, hparams⟩ := List.exists_cons_of_ne_nil hnil
      have hfront : (Text.trim rest).dropWhile Text.isBlank = Text.trim rest :=
        Text.dropWhile_eq_self_of_trimBy (Text.trimBy_trimBy _ _)
      rw [hne, List.nil_append, hparams] at hgap
      rw [hparams] at hfront
      have hescape := (nameStandsApart_append hname hrest hapart).resolve_right fun hblank => by
        have hc := Text.isBlank_of_isAsciiBlank (hblank c (by rw [hgap]; rfl))
        rw [Text.not_of_dropWhile_eq_self hfront] at hc
        cases hc
      have hends := hrest c (by rw [hgap]; rfl)
      have hslash : c ≠ '/' := fun hc => absurd hends (by rw [hc]; decide)
      have hstar : c ≠ '*' := fun hc => absurd hends (by rw [hc]; decide)
      rw [hgap, List.append_assoc] at hclosed
      rw [hparams]
      exact IsClosed.insert_gap hclosed isGap_blank hescape hslash hstar
    · have hparts : '@' :: name ++ (gap ++ Text.trim rest) ++ pad =
          '@' :: name ++ gap ++ (Text.trim rest ++ pad) := by simp
      rw [hgap, hparts] at hclosed
      exact hclosed.refill (isGap_blanks hne hblanks) isGap_blank

end AtRules

section Declarations

variable {property value : List Char}

theorem toList_declarationHead_ofList (property value : List Char) :
    (declarationHead (String.ofList property) (String.ofList value)).toList =
      property ++ if value = [] then [] else ':' :: ' ' :: value := by
  rw [toList_declarationHead, String.toList_ofList, String.toList_ofList]
  simp [String.isEmpty_iff]

theorem prefix_of_prefix_append {start front rest : List Char} (h : start <+: front ++ rest)
    (hrest : ∀ c, rest.head? = some c → c ∉ start) : start <+: front := by
  rcases List.prefix_or_prefix_of_prefix h (List.prefix_append front rest) with
    hstart | ⟨more, rfl⟩
  · exact hstart
  · cases more with
    | nil => simp
    | cons c more =>
      obtain ⟨rest, rfl⟩ := (List.prefix_append_right_inj front).1 h
      exact absurd (by simp) (hrest c rfl)

theorem trim_isPrefix (htrim : Text.trim (property ++ value) = property ++ value) :
    Text.trim property <+: property := by
  have hfront := Text.dropWhile_eq_self_of_prefix (List.prefix_append property value)
    (Text.dropWhile_eq_self_of_trimBy htrim)
  rw [Text.trim, Text.trimBy_eq_rdropWhile, hfront]
  exact List.rdropWhile_prefix _ _

/-- What is written for a declaration starts as the declaration did. -/
theorem startsPlainly_declarationHead
    (htrim : Text.trim (property ++ ':' :: value) = property ++ ':' :: value)
    (hstart : StartsPlainly (property ++ ':' :: value)) :
    StartsPlainly (declarationHead (String.ofList (Text.trim property))
      (String.ofList (Text.trim value))).toList := by
  have hprefix := (trim_isPrefix htrim).trans (List.prefix_append property (':' :: value))
  have hkeep : ∀ start : List Char, ':' ∉ start → ¬start <+: property ++ ':' :: value →
      ¬start <+: (declarationHead (String.ofList (Text.trim property))
        (String.ofList (Text.trim value))).toList := by
    intro start hcolon hnot hwritten
    rw [toList_declarationHead_ofList] at hwritten
    refine hnot ((prefix_of_prefix_append hwritten ?_).trans hprefix)
    split_ifs
    · simp
    · rintro c hc
      cases hc
      exact hcolon
  exact ⟨hkeep _ (by decide) hstart.noAtRule, hkeep _ (by decide) hstart.noComment⟩

theorem isClosed_declarationHead
    (htrim : Text.trim (property ++ ':' :: value) = property ++ ':' :: value)
    (hclosed : IsClosed (property ++ ':' :: value))
    (hescape : Text.trim value = [] → endsInEscape (Text.trim property) = false) :
    IsClosed (declarationHead (String.ofList (Text.trim property))
      (String.ofList (Text.trim value))).toList := by
  obtain ⟨front, back, hproperty, hfront, hback⟩ := Text.exists_pad Text.isBlank property
  have hcolon : ∀ more : List Char, (∀ c ∈ more, Text.isBlank c = true) →
      IsGap (back ++ ':' :: more) := by
    intro more hmore
    refine ⟨by simp, fun c hc => ?_⟩
    rcases List.mem_append.1 hc with hc | hc
    · exact isFiller_of_isBlank (hback c hc)
    · rcases List.mem_cons.1 hc with rfl | hc
      · rfl
      · exact isFiller_of_isBlank (hmore c hc)
  change property = front ++ Text.trim property ++ back at hproperty
  rw [hproperty, List.append_assoc, List.append_assoc] at hclosed
  have hrest := hclosed.of_blanks_append hfront
  rw [toList_declarationHead_ofList]
  split_ifs with hnil
  · rw [List.append_nil]
    exact hrest.of_append_gap (hcolon value (Text.trimBy_eq_nil_iff.1 hnil)) (hescape hnil)
  · have hvalue : value.rdropWhile Text.isBlank = value :=
      Text.rdropWhile_eq_self_of_suffix ⟨property ++ [':'], by simp⟩
        (Text.rdropWhile_eq_self_of_trimBy htrim)
    obtain ⟨gap, hgap, hblanks⟩ := Text.exists_front hvalue
    change value = gap ++ Text.trim value at hgap
    have hparts : Text.trim property ++ (back ++ ':' :: (gap ++ Text.trim value)) =
        Text.trim property ++ (back ++ ':' :: gap) ++ Text.trim value := by simp
    rw [hgap, hparts] at hrest
    have hwritten : IsGap [':', ' '] := ⟨by simp, List.all_eq_true.1 rfl⟩
    have hrefilled := hrest.refill (hcolon gap hblanks) hwritten
    rwa [List.append_assoc] at hrefilled

theorem isDeclaration_trim (hcolon : ':' ∉ property)
    (htrim : Text.trim (property ++ ':' :: value) = property ++ ':' :: value)
    (hstart : StartsPlainly (property ++ ':' :: value))
    (hclosed : IsClosed (property ++ ':' :: value))
    (halone : Node.propertyStandsAlone (.declaration (String.ofList (Text.trim property))
      (String.ofList (Text.trim value))) = true) :
    IsDeclaration (String.ofList (Text.trim property)) (String.ofList (Text.trim value)) := by
  simp only [Node.propertyStandsAlone, Bool.or_eq_true, Bool.and_eq_true, Bool.not_eq_true',
    String.isEmpty_eq_false_iff, String.toList_ofList] at halone
  refine ⟨?_, ?_, ?_, ?_, ?_, startsPlainly_declarationHead htrim hstart⟩
  · rw [String.toList_ofList]
    exact Text.trimBy_trimBy _ _
  · rw [String.toList_ofList]
    exact Text.trimBy_trimBy _ _
  · rintro ⟨hproperty, hvalue⟩
    exact halone.elim (· hvalue) (·.1 hproperty)
  · rw [String.toList_ofList]
    exact fun hmem => hcolon ((trim_isPrefix htrim).subset hmem)
  · refine isClosed_declarationHead htrim hclosed fun hnil => ?_
    refine (halone.resolve_left fun hvalue => hvalue ?_).2
    rw [hnil]

end Declarations

/-! ### From tokens to nodes -/

theorem trim_of_eq_trim {raw head : List Char} (h : head = Text.trim raw) :
    Text.trim head = head := by
  rw [h]
  exact Text.trimBy_trimBy _ _

theorem Token.Settled.statement_readable {raw head : List Char} {node : Node}
    (h : (Token.statement head).Settled) (hraw : IsClosed raw) (hhead : head = Text.trim raw)
    (hnode : statementNode? head = some node) : node.Readable := by
  obtain ⟨hcomment, hapart, hescape, halone⟩ := h
  have htrim := trim_of_eq_trim hhead
  have hclosed : IsClosed head := hhead ▸ hraw.trim (hhead ▸ hescape)
  by_cases hat : ['@'] <+: head
  · obtain ⟨body, rfl⟩ := hat
    obtain ⟨name, rest, rfl, hname, hrest⟩ := Text.exists_splitAt endsName body
    rw [List.singleton_append, statementNode?, splitAtRule_append hname hrest] at hnode
    cases hnode
    refine (splitsBack_trim hname htrim).statementReads ?_
    have hpadded : IsClosed ('@' :: name ++ rest ++ []) := by simpa using hclosed
    have hwritten := isClosed_atRuleHead hname hrest htrim hapart hpadded
    rwa [List.append_nil] at hwritten
  · rw [hnode, Option.all_some] at halone
    have hne : head ≠ [] := by
      rintro rfl
      cases hnode
    have hplain := statementNode?_of_not_atRule hne hat
    rw [hnode, Option.some_inj] at hplain
    subst hplain
    by_cases hmem : ':' ∈ head
    · obtain ⟨property, value, rfl, hcolon⟩ := List.eq_append_cons_of_mem hmem
      rw [declarationNode_append hcolon] at halone ⊢
      exact (isDeclaration_trim hcolon htrim ⟨hat, hcomment⟩ hclosed halone).reads
    · have hwritten : (declarationHead (String.ofList head) "").toList = head := by
        simp [toList_declarationHead]
      rw [declarationNode_of_not_mem hmem] at hnode ⊢
      refine ⟨⟨?_, ?_, ?_⟩, ?_⟩
      · rw [hwritten, htrim]
      · rwa [hwritten]
      · rwa [hwritten, List.append_nil]
      · rw [hwritten, hnode]

theorem Token.Settled.block_readable {raw head : List Char} {nodes : List Node}
    (h : (Token.opening head).Settled) (hraw : IsClosed raw) (hhead : head = Text.trim raw)
    (hnodes : AllReadable nodes) : (blockNode head nodes).Readable := by
  obtain ⟨hcomment, hapart⟩ := h
  have htrim := trim_of_eq_trim hhead
  have hclosed : IsClosed (head ++ [' ']) := hhead ▸ hraw.trim_append_blank
  by_cases hat : ['@'] <+: head
  · obtain ⟨body, rfl⟩ := hat
    obtain ⟨name, rest, rfl, hname, hrest⟩ := Text.exists_splitAt endsName body
    rw [List.singleton_append, blockNode, splitAtRule_append hname hrest]
    exact ⟨(splitsBack_trim hname htrim).blockReads
      (isClosed_atRuleHead hname hrest htrim hapart hclosed), hnodes⟩
  · rw [blockNode_of_not_atRule hat]
    refine ⟨selectorReads ?_ ?_ ?_, hnodes⟩
    · rwa [String.toList_ofList]
    · rwa [String.toList_ofList]
    · rw [String.toList_ofList]
      exact ⟨hat, hcomment⟩

theorem allReadable_iff {nodes : List Node} :
    AllReadable nodes ↔ ∀ node ∈ nodes, node.Readable := by
  induction nodes with
  | nil => simp [AllReadable]
  | cons node nodes ih => rw [AllReadable, ih, List.forall_mem_cons]

structure Levels.Readable (l : Levels) : Prop where
  current : AllReadable l.current
  outer : ∀ nodes ∈ l.outer, AllReadable nodes

theorem Levels.Readable.add {l : Levels} (h : l.Readable) {token : Token}
    (hterminated : token.IsTerminated) (hsettled : token.Settled) : (l.add token).Readable := by
  cases token with
  | comment text => exact ⟨⟨hterminated, h.current⟩, h.outer⟩
  | closing => exact ⟨trivial, List.forall_mem_cons.2 ⟨h.current, h.outer⟩⟩
  | statement head =>
    obtain ⟨raw, hraw, hhead⟩ := hterminated
    cases hnode : statementNode? head with
    | none =>
      simp only [Levels.add, hnode]
      exact h
    | some node =>
      simp only [Levels.add, hnode]
      exact ⟨⟨hsettled.statement_readable hraw hhead hnode, h.current⟩, h.outer⟩
  | opening head =>
    obtain ⟨raw, hraw, hhead⟩ := hterminated
    refine ⟨⟨hsettled.block_readable hraw hhead h.current, ?_⟩, ?_⟩
    · cases houter : l.outer with
      | nil => trivial
      | cons nodes outer => exact h.outer nodes (by simp [houter])
    · exact fun nodes hmem => h.outer nodes (List.mem_of_mem_tail hmem)

theorem readable_nodesOfTokens {tokens : List Token} (hterminated : ∀ t ∈ tokens, t.IsTerminated)
    (hsettled : ∀ t ∈ tokens, t.Settled) : AllReadable (nodesOfTokens tokens) := by
  have hlevels : (tokens.foldr Levels.add {}).Readable := by
    induction tokens with
    | nil => exact ⟨trivial, by simp⟩
    | cons token tokens ih =>
      rw [List.forall_mem_cons] at hterminated hsettled
      exact (ih hterminated.2 hsettled.2).add hterminated.1 hsettled.1
  rw [nodesOfTokens, Levels.toNodes, allReadable_iff]
  intro node hnode
  rcases List.mem_append.1 hnode with hnode | hnode
  · exact allReadable_iff.1 hlevels.current node hnode
  · obtain ⟨nodes, hmem, hnode⟩ := List.mem_flatten.1 hnode
    exact allReadable_iff.1 (hlevels.outer nodes hmem) node hnode

/-- The tree of a terminated text whose heads are settled is what its written form reads as. -/
theorem parse_print_parse {source : String} (hterminated : Terminated source.toList)
    (hsettled : ∀ token ∈ Token.scan source.toList, token.Settled) (file : Option Path) :
    parse (print (parse source file).nodes) file = parse source file := by
  have hreadable := readable_nodesOfTokens hterminated.scan hsettled
  have hnodes : parseNodes (print (parseNodes source.toList)).toList = parseNodes source.toList :=
    hreadable.parseNodes_print
  rw [parse, parse, hnodes]

/-- A text with escapes in front of braces, quotes, blanks and colons, with strings and comments
that hold braces, and with blocks that are never opened or closed. -/
def variedSource : String :=
  "@media(min-width:1px)\x7b.a\\:b\\ \x7b x\\ :  'a\\';:\x7d' ;--y:;/* ; *//**/\x7d\x7d\x7d" ++
    " @a\\  (b);c:url(data:,;\x7b);@import'a.css';@\x7b\x7bd:\\,"

theorem parse_print_parse_variedSource :
    Terminated variedSource.toList ∧
      (∀ token ∈ Token.scan variedSource.toList, token.Settled) ∧
      parse (print (parse variedSource none).nodes) none = parse variedSource none := by
  have hterminated : Terminated variedSource.toList := by decide +kernel
  have hsettled : ∀ token ∈ Token.scan variedSource.toList, token.Settled := by decide +kernel
  exact ⟨hterminated, hsettled, parse_print_parse hterminated hsettled none⟩

end StylesheetAssets.Stylesheet
