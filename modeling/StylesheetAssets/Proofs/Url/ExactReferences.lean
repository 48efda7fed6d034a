import StylesheetAssets.Proofs.Url.Scanning

/-!
The references of a value are those that the scan of its bytes meets, but for empty paths and paths
that lead out of the file system.
-/
namespace StylesheetAssets.Url

open Text (bytes byteLength)

/-! ### One scan -/

theorem NextToken.unique {text : List UInt8} {cursor i j : Nat} (h : NextToken text cursor i)
    (h' : NextToken text cursor j) : i = j := by
  rcases Nat.lt_trichotomy i j with hlt | heq | hlt
  · exact absurd h.token (h'.first i h.le hlt)
  · exact heq
  · exact absurd h'.token (h.first j h'.le hlt)

theorem Scans.unique {value : List Char} {cursor turns turns' : Nat} {rs rs' : List Reference}
    (h : Scans (bytes value) cursor rs turns) (h' : Scans (bytes value) cursor rs' turns') :
    rs = rs' ∧ turns = turns' := by
  induction h generalizing rs' turns' with
  | done hnone =>
    cases h' with
    | done => exact ⟨rfl, rfl⟩
    | read next => exact absurd next.token (hnone _ next.le)
    | passed next => exact absurd next.token (hnone _ next.le)
  | read next hread _ ih =>
    cases h' with
    | done hnone => exact absurd next.token (hnone _ next.le)
    | read next' hread' rest' =>
      obtain rfl := next.unique next'
      obtain rfl := hread.unique next.token hread'
      obtain ⟨rfl, rfl⟩ := ih rest'
      exact ⟨rfl, rfl⟩
    | passed next' hread' =>
      obtain rfl := next.unique next'
      exact absurd hread (hread' _)
  | passed next hread _ ih =>
    cases h' with
    | done hnone => exact absurd next.token (hnone _ next.le)
    | read next' hread' =>
      obtain rfl := next.unique next'
      exact absurd hread' (hread _)
    | passed next' _ rest' =>
      obtain rfl := next.unique next'
      obtain ⟨rfl, rfl⟩ := ih rest'
      exact ⟨rfl, rfl⟩

/-- What is met lies behind the cursor, each reference behind the one before. -/
theorem Scans.pairwise {text : List UInt8} {cursor turns : Nat} {rs : List Reference}
    (h : Scans text cursor rs turns) :
    (∀ r ∈ rs, cursor ≤ r.span.start) ∧ rs.Pairwise fun r r' => r.span.stop ≤ r'.span.start := by
  have hmatch {i : Nat} {r : Reference} (h : MatchAt text i r) :
      r.span.start = i ∧ i ≤ r.span.stop := by
    cases h <;> exact ⟨rfl, by simp only [referenceAt]; omega⟩
  induction h with
  | done => exact ⟨by simp, .nil⟩
  | read next hread _ ih =>
    obtain ⟨hbehind, hrest⟩ := ih
    obtain ⟨hstart, hstop⟩ := hmatch hread
    have hle := next.le
    refine ⟨fun r' hr' => ?_, List.pairwise_cons.2 ⟨hbehind, hrest⟩⟩
    rcases List.mem_cons.1 hr' with rfl | hr'
    · omega
    · have hbehind' := hbehind r' hr'
      omega
  | passed next _ _ ih =>
    obtain ⟨hbehind, hrest⟩ := ih
    have hle := next.le
    refine ⟨fun r hr => ?_, hrest⟩
    have hbehind' := hbehind r hr
    omega

/-! ### The scan of a text -/

section Passing

variable {text : List UInt8} {a b : Nat}

theorem nextToken_iff (hab : a ≤ b) (hnone : ∀ k, a ≤ k → k < b → ¬TokenAt text k) {i : Nat} :
    NextToken text a i ↔ NextToken text b i := by
  constructor
  · rintro ⟨token, hle, hfirst⟩
    refine ⟨token, ?_, fun k hk => hfirst k (hab.trans hk)⟩
    by_contra hlt
    exact hnone i hle (Nat.not_le.1 hlt) token
  · rintro ⟨token, hle, hfirst⟩
    refine ⟨token, hab.trans hle, fun k hk hlt => ?_⟩
    rcases Nat.lt_or_ge k b with hkb | hkb
    · exact hnone k hk hkb
    · exact hfirst k hkb hlt

/-- Where no token starts the cursor can be moved on. -/
theorem scans_iff (hab : a ≤ b) (hnone : ∀ k, a ≤ k → k < b → ¬TokenAt text k)
    {rs : List Reference} {turns : Nat} : Scans text a rs turns ↔ Scans text b rs turns := by
  have hnext (i : Nat) := nextToken_iff hab hnone (i := i)
  constructor
  · intro h
    cases h with
    | done hdone => exact .done fun i hi => hdone i (hab.trans hi)
    | read next hread rest => exact .read ((hnext _).1 next) hread rest
    | passed next hread rest => exact .passed ((hnext _).1 next) hread rest
  · intro h
    cases h with
    | done hdone =>
      refine .done fun i hi => ?_
      rcases Nat.lt_or_ge i b with hlt | hge
      · exact hnone i hi hlt
      · exact hdone i hge
    | read next hread rest => exact .read ((hnext _).2 next) hread rest
    | passed next hread rest => exact .passed ((hnext _).2 next) hread rest

end Passing

section Texts

variable {value front rest : List Char} {rs : List Reference} {turns : Nat}

theorem scans_cons_iff {c : Char} (hvalue : front ++ c :: rest = value)
    (hopens : ¬OpensToken front (c :: rest)) :
    Scans (bytes value) (byteLength front) rs turns ↔
      Scans (bytes value) (byteLength (front ++ [c])) rs turns := by
  subst hvalue
  exact scans_iff (by simp) fun k => not_tokenAt_cons hopens

theorem not_opensToken {c : Char} (hc : c.toLower ≠ 'u') : ¬OpensToken front (c :: rest) := by
  rintro ⟨⟨hurl⟩, -⟩
  exact hc hurl.1

/-- Within the keyword no other one starts. -/
theorem scans_keyword_iff {u r l : Char}
    (hurl : u.toLower = 'u' ∧ r.toLower = 'r' ∧ l.toLower = 'l')
    (hvalue : front ++ u :: r :: l :: '(' :: rest = value) :
    Scans (bytes value) (byteLength (front ++ [u])) rs turns ↔
      Scans (bytes value) (byteLength front + 4) rs turns := by
  have hkeyword : IsKeyword [u, r, l, '('] := ⟨u, r, l, rfl, hurl⟩
  have hr : front ++ [u] ++ r :: l :: '(' :: rest = value := by simpa using hvalue
  have hl : front ++ [u] ++ [r] ++ l :: '(' :: rest = value := by simpa using hvalue
  have hparen : front ++ [u] ++ [r] ++ [l] ++ '(' :: rest = value := by simpa using hvalue
  rw [scans_cons_iff hr (not_opensToken (by simp [hurl])),
    scans_cons_iff hl (not_opensToken (by simp [hurl])),
    scans_cons_iff hparen (not_opensToken (by decide)), ← hkeyword.byteLength,
    ← Text.byteLength_append]
  simp

theorem nextToken_byteLength (hopens : OpensToken front rest) :
    NextToken (bytes (front ++ rest)) (byteLength front) (byteLength front) :=
  ⟨tokenAt_byteLength.2 hopens, Nat.le_refl _, fun _ hle hlt => absurd hle (Nat.not_le.2 hlt)⟩

theorem OpensToken.of_matchOccurrence {o : Occurrence} {after : List Char}
    (hfront : ¬front.getLast?.any isWordChar = true)
    (h : matchOccurrence rest = some (o, after)) : OpensToken front rest := by
  obtain ⟨u, r, l, t, rfl, hurl⟩ := keyword_of_matchOccurrence h
  exact ⟨.intro hurl t, by simpa using hfront⟩

end Texts

theorem Occurrence.Formed.getLast?_text {o : Occurrence} (h : o.Formed) :
    o.text.getLast? = some ')' := by
  obtain ⟨front, htrail⟩ : ∃ front, o.trail = front ++ [')'] := by
    cases h <;> exact ⟨_, rfl⟩
  rw [Occurrence.text, htrail, ← List.append_assoc, List.getLast?_concat]

theorem stop_reference (o : Occurrence) (start : Nat) :
    (o.reference start).span.stop = start + byteLength o.text := by
  simp only [Occurrence.reference, Occurrence.text, Text.byteLength_append, Nat.add_assoc]

/-- The scan meets the occurrences among the fragments, in at most one turn for each byte, and one
more to find the end. -/
theorem scans_fragments {previous : Option Char} {s : List Char} (front : List Char)
    (hprevious : previous = front.getLast?) :
    ∃ turns ≤ byteLength s + 1,
      Scans (bytes (front ++ s)) (byteLength front)
        ((locate (byteLength front) (fragments previous s)).map fun (i, o) => o.reference i)
        turns := by
  fun_induction fragments previous s generalizing front with
  | case1 previous =>
    refine ⟨1, Nat.le_refl 1, .done fun i hi htoken => ?_⟩
    have hlen := congrArg List.length htoken.keyword
    rw [List.append_nil, List.drop_eq_nil_of_le (by rwa [Text.length_bytes])] at hlen
    simp at hlen
  | case2 previous c rest hword ih =>
    obtain ⟨turns, hturns, hscan⟩ := ih (front ++ [c]) (by simp)
    have hopens : ¬OpensToken front (c :: rest) := fun h => by
      rw [hprevious, h.2] at hword
      cases hword
    refine ⟨turns, ?_, ?_⟩
    · rw [Text.byteLength_cons]
      omega
    · rw [scans_cons_iff rfl hopens]
      simpa [locate] using hscan
  | case3 previous c rest hword o after hmatch _ ih =>
    obtain ⟨turns, hturns, hscan⟩ :=
      ih (front ++ o.text) (by simp [(formed_of_matchOccurrence hmatch).getLast?_text])
    have hopens : OpensToken front (c :: rest) := .of_matchOccurrence (hprevious ▸ hword) hmatch
    have hread : MatchAt (bytes (front ++ c :: rest)) (byteLength front)
        (o.reference (byteLength front)) :=
      (matchAt_iff hopens.1).2 ⟨o, after, hmatch, rfl⟩
    have htext := matchOccurrence_append hmatch
    refine ⟨turns + 1, ?_, .read (nextToken_byteLength hopens) hread ?_⟩
    · have hlen := congrArg byteLength htext
      have hpos := (formed_of_matchOccurrence hmatch).keyword.byteLength
      simp only [Occurrence.text, Text.byteLength_append] at hlen
      omega
    · rw [stop_reference, ← htext]
      simpa [locate] using hscan
  | case4 previous c rest hword hnone ih =>
    obtain ⟨turns, hturns, hscan⟩ := ih (front ++ [c]) (by simp)
    have hc := c.utf8Size_pos
    by_cases hopens : OpensToken front (c :: rest)
    · -- A token that is not read takes a turn, for which there is its first letter.
      have hread (r : Reference) : ¬MatchAt (bytes (front ++ c :: rest)) (byteLength front) r := by
        rw [matchAt_iff hopens.1, hnone]
        rintro ⟨o, after, hsome, -⟩
        cases hsome
      refine ⟨turns + 1, ?_, .passed (nextToken_byteLength hopens) hread ?_⟩
      · rw [Text.byteLength_cons]
        omega
      · obtain ⟨hstarts, -⟩ := hopens
        cases hstarts with
        | intro hurl =>
          rw [← scans_keyword_iff hurl rfl]
          simpa [locate] using hscan
    · refine ⟨turns, ?_, ?_⟩
      · rw [Text.byteLength_cons]
        omega
      · rw [scans_cons_iff rfl hopens]
        simpa [locate] using hscan

/-! ### Paths that name files -/

/-- A path that leads out of the file system: what follows its white space starts with `//` or with
a scheme of at least two characters. -/
inductive IsForeign : List Char → Prop
  | network {blanks : List Char} (hblanks : ∀ c ∈ blanks, Text.isBlank c = true)
      (rest : List Char) : IsForeign (blanks ++ '/' :: '/' :: rest)
  | scheme {blanks more : List Char} {letter : Char}
      (hblanks : ∀ c ∈ blanks, Text.isBlank c = true) (hletter : letter.isAlpha = true)
      (hmore : ∀ c ∈ more, isSchemeChar c = true) (hne : more ≠ []) (rest : List Char) :
      IsForeign (blanks ++ letter :: (more ++ ':' :: rest))

theorem not_isBlank_of_isAlpha {c : Char} (h : c.isAlpha = true) : Text.isBlank c = false := by
  by_contra hblank
  rw [isAlpha_iff] at h
  simp only [Text.isBlank, Bool.not_eq_false, Bool.or_eq_true, Bool.and_eq_true,
    decide_eq_true_eq, beq_iff_eq] at hblank
  omega

theorem hasScheme_iff {path : List Char} : hasScheme path = true ↔ IsForeign path := by
  constructor
  · intro h
    have hblanks : ∀ c ∈ path.takeWhile Text.isBlank, Text.isBlank c = true :=
      fun c => List.mem_takeWhile_imp
    rw [← List.takeWhile_append_dropWhile (p := Text.isBlank) (l := path)]
    unfold hasScheme at h
    rcases (Bool.or_eq_true _ _).mp h with hslashes | hscheme
    · obtain ⟨rest, hrest⟩ := List.isPrefixOf_iff_prefix.1 hslashes
      rw [← hrest]
      exact .network hblanks rest
    · cases hs : path.dropWhile Text.isBlank with
      | nil =>
        rw [hs] at hscheme
        cases hscheme
      | cons letter s =>
        rw [hs, startsWithScheme] at hscheme
        simp only [Bool.and_eq_true, Bool.not_eq_true', decide_eq_true_eq] at hscheme
        obtain ⟨⟨hletter, hne⟩, hcolon⟩ := hscheme
        obtain ⟨rest, hrest⟩ : ∃ rest, s.dropWhile isSchemeChar = ':' :: rest :=
          List.head?_eq_some_iff.1 hcolon
        rw [← List.takeWhile_append_dropWhile (p := isSchemeChar) (l := s), hrest]
        exact .scheme hblanks hletter (fun c => List.mem_takeWhile_imp) (by simpa using hne) rest
  · intro h
    cases h with
    | network hblanks rest =>
      rw [hasScheme, List.dropWhile_append_of_pos hblanks]
      rfl
    | @scheme blanks more letter hblanks hletter hmore hne rest =>
      have hstart : startsWithScheme (letter :: (more ++ ':' :: rest)) = true := by
        rw [startsWithScheme, List.takeWhile_append_of_pos hmore,
          List.dropWhile_append_of_pos hmore]
        have hcolon : isSchemeChar ':' = false := by decide
        simp [hletter, hne, hcolon]
      have hletter' := not_isBlank_of_isAlpha hletter
      rw [hasScheme, List.dropWhile_append_of_pos hblanks,
        List.dropWhile_cons_of_neg (by simp [hletter']), hstart, Bool.or_true]

/-- The path of a reference as a part of the text. No stretch of the reference cuts a character. -/
inductive Reference.HasPath (value : List Char) (r : Reference) (path : List Char) : Prop
  | intro {before lead trail after : List Char}
      (hvalue : value = before ++ lead ++ path ++ trail ++ after)
      (hspan : r.span = ⟨byteLength before, byteLength (before ++ lead ++ path ++ trail)⟩)
      (hpath : r.path = ⟨byteLength (before ++ lead), byteLength (before ++ lead ++ path)⟩)

theorem append_inj_of_byteLength {front rest front' rest' : List Char}
    (h : front ++ rest = front' ++ rest') (hlen : byteLength front = byteLength front') :
    front = front' ∧ rest = rest' := by
  obtain ⟨more, rfl, rfl⟩ := exists_of_byteLength_le h (Nat.le_of_eq hlen)
  cases more with
  | nil => exact ⟨(List.append_nil front).symm, rfl⟩
  | cons c more =>
    have hc := c.utf8Size_pos
    rw [Text.byteLength_append, Text.byteLength_cons] at hlen
    omega

theorem Reference.HasPath.unique {value path path' : List Char} {r : Reference}
    (h : r.HasPath value path) (h' : r.HasPath value path') : path = path' := by
  obtain @⟨before, lead, trail, after, hvalue, -, hpath⟩ := h
  obtain @⟨before', lead', trail', after', hvalue', -, hpath'⟩ := h'
  obtain ⟨hstart, hstop⟩ := Span.mk.inj (hpath.symm.trans hpath')
  have hparts : (before ++ lead ++ path) ++ (trail ++ after) =
      (before' ++ lead' ++ path') ++ (trail' ++ after') := by
    rw [← List.append_assoc, ← hvalue, ← List.append_assoc, ← hvalue']
  obtain ⟨hfront, -⟩ := append_inj_of_byteLength hparts hstop
  exact (append_inj_of_byteLength hfront hstart).2

theorem hasPath_of_mem_locate {value : List Char} (front : List Char) {fs : List Fragment} {i : Nat}
    {o : Occurrence} (hvalue : value = front ++ spell fs)
    (h : (i, o) ∈ locate (byteLength front) fs) : (o.reference i).HasPath value o.path := by
  induction fs generalizing front with
  | nil => cases h
  | cons f fs ih =>
    have hrest : value = front ++ f.text ++ spell fs := by
      rw [hvalue, spell_cons, List.append_assoc]
    cases f with
    | char c => exact ih (front ++ [c]) hrest (by simpa [locate] using h)
    | url o' =>
      rw [locate] at h
      rcases List.mem_cons.1 h with heq | h
      · cases heq
        refine @Reference.HasPath.intro _ _ _ front (o.keyword ++ o.lead) o.trail (spell fs)
          ?_ ?_ ?_
        · simpa [Fragment.text, Occurrence.text] using hrest
        · simp [Occurrence.reference, Nat.add_assoc]
        · simp [Occurrence.reference, Nat.add_assoc]
      · exact ih (front ++ o'.text) hrest (by simpa using h)

theorem isLocal_iff {o : Occurrence} : o.isLocal = true ↔ o.path ≠ [] ∧ ¬IsForeign o.path := by
  rw [← hasScheme_iff]
  simp [Occurrence.isLocal]

/-- Whether a reference leads to a file. -/
def Reference.NamesFile (value : List Char) (r : Reference) : Prop :=
  ∃ path, r.HasPath value path ∧ path ≠ [] ∧ ¬IsForeign path

theorem namesFile_iff {value : List Char} {o : Occurrence} {i : Nat}
    (h : (o.reference i).HasPath value o.path) :
    (o.reference i).NamesFile value ↔ o.isLocal = true := by
  rw [isLocal_iff]
  constructor
  · rintro ⟨path, hpath, hlocal⟩
    rwa [h.unique hpath]
  · exact fun hlocal => ⟨o.path, h, hlocal⟩

open scoped Classical in
theorem filterMap_eq_filter {value : List Char} {located : List (Nat × Occurrence)}
    (h : ∀ i o, (i, o) ∈ located → (o.reference i).HasPath value o.path) :
    located.filterMap (fun (i, o) => if o.isLocal then some (o.reference i) else none) =
      (located.map fun (i, o) => o.reference i).filter (·.NamesFile value) := by
  induction located with
  | nil => rfl
  | cons p located ih =>
    obtain ⟨i, o⟩ := p
    have hnames := namesFile_iff (h i o List.mem_cons_self)
    have hrest := ih fun i o ho => h i o (List.mem_cons_of_mem _ ho)
    rw [List.filterMap_cons, List.map_cons, List.filter_cons, hrest]
    by_cases hlocal : o.isLocal = true
    · simp only [hlocal, hnames.2 hlocal, decide_true, if_true]
    · simp only [hlocal, mt hnames.1 hlocal, decide_false, if_false, Bool.false_eq_true]

open scoped Classical in
/-- The references of a value are what the scan of its bytes meets, without what names no file. The
scan has one course, which takes at most one turn more than there are bytes. What it meets is cut
out between characters, and one reference lies behind the other. -/
theorem references_exact (value : String) :
    ∃ found turns,
      (∀ rs n, Scans value.toUTF8.data.toList 0 rs n ↔ rs = found ∧ n = turns) ∧
      turns ≤ value.toUTF8.size + 1 ∧
      (∀ r ∈ found, ∃ path, r.HasPath value.toList path) ∧
      references value.toList = found.filter (·.NamesFile value.toList) ∧
      (references value.toList).Pairwise fun r r' => r.span.stop ≤ r'.span.start := by
  have hstart : none = ([] : List Char).getLast? := rfl
  obtain ⟨turns, hturns, hscan⟩ := scans_fragments (s := value.toList) [] hstart
  rw [List.nil_append, Text.byteLength_nil] at hscan
  have hlocated (i : Nat) (o : Occurrence) (ho : (i, o) ∈ locate 0 (fragments none value.toList)) :
      (o.reference i).HasPath value.toList o.path :=
    hasPath_of_mem_locate [] (spell_fragments none value.toList).symm ho
  have hreferences := filterMap_eq_filter hlocated
  have hsize : byteLength value.toList = value.toUTF8.size := by
    rw [← Text.length_bytes, ← Text.toList_toUTF8]
    rfl
  rw [Text.toList_toUTF8, ← hsize]
  refine ⟨_, turns, fun rs n => ⟨fun h => h.unique hscan, ?_⟩, hturns, ?_, hreferences, ?_⟩
  · rintro ⟨rfl, rfl⟩
    exact hscan
  · intro r hr
    obtain ⟨⟨i, o⟩, ho, rfl⟩ := List.mem_map.1 hr
    exact ⟨o.path, hlocated i o ho⟩
  · rw [references, hreferences]
    exact hscan.pairwise.2.filter _

end StylesheetAssets.Url
