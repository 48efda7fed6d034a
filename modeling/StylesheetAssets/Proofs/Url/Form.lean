import StylesheetAssets.Proofs.Text.Splitting
import StylesheetAssets.Proofs.Text.Trimming
import StylesheetAssets.Url.Fragment

/-!
The form of occurrences: whatever has it is read as it is spelled, also where its path was exchanged
for another one that fits into it.
-/
namespace StylesheetAssets.Url

/-! ### Quoted paths -/

/-- Nothing in the text ends a string with the quote `q`: neither the quote nor a last backslash. -/
def staysQuoted (q : Char) : List Char → Bool
  | [] => true
  | '\\' :: _ :: rest => staysQuoted q rest
  | c :: rest => c ≠ '\\' && c ≠ q && staysQuoted q rest

theorem staysQuoted_cons {q c : Char} {rest : List Char} (hslash : c ≠ '\\') :
    staysQuoted q (c :: rest) = true ↔ c ≠ q ∧ staysQuoted q rest = true := by
  rw [staysQuoted]
  · simp [hslash]
  · rintro d rest rfl
    exact absurd rfl hslash

theorem splitQuoted_cons {q c : Char} {rest : List Char} (hslash : c ≠ '\\') (hq : c ≠ q) :
    splitQuoted q (c :: rest) =
      (splitQuoted q rest).map fun (body, after) => (c :: body, after) := by
  rw [splitQuoted, if_neg hq]
  rintro d rest rfl
  exact absurd rfl hslash

theorem splitQuoted_quote {q : Char} (hq : q ≠ '\\') (rest : List Char) :
    splitQuoted q (q :: rest) = some ([], rest) := by
  rw [splitQuoted, if_pos rfl]
  rintro d rest rfl
  exact absurd rfl hq

theorem splitQuoted_of_staysQuoted {q : Char} (hq : q ≠ '\\') {body : List Char}
    (h : staysQuoted q body = true) (after : List Char) :
    splitQuoted q (body ++ q :: after) = some (body, after) := by
  fun_induction staysQuoted q body with
  | case1 => exact splitQuoted_quote hq after
  | case2 c rest ih =>
    rw [List.cons_append, List.cons_append, splitQuoted, ih h]
    rfl
  | case3 c rest hne ih =>
    simp only [Bool.and_eq_true, decide_eq_true_eq] at h
    rw [List.cons_append, splitQuoted_cons h.1.1 h.1.2, ih h.2]
    rfl

theorem staysQuoted_of_splitQuoted {q : Char} {s body after : List Char}
    (h : splitQuoted q s = some (body, after)) : staysQuoted q body = true := by
  fun_induction splitQuoted q s generalizing body after with
  | case1 => cases h
  | case2 c rest ih =>
    obtain ⟨⟨b, a⟩, hb, heq⟩ := Option.map_eq_some_iff.1 h
    cases heq
    rw [staysQuoted]
    exact ih hb
  | case3 rest _ =>
    cases h
    rfl
  | case4 c rest hne hc ih =>
    obtain ⟨⟨b, a⟩, hb, heq⟩ := Option.map_eq_some_iff.1 h
    cases heq
    have hslash : c ≠ '\\' := by
      rintro rfl
      cases rest with
      | nil => cases hb
      | cons d rest => exact hne d rest rfl rfl
    exact (staysQuoted_cons hslash).2 ⟨hc, ih hb⟩

theorem staysQuoted_append {q : Char} {s t : List Char} (hs : ∀ c ∈ s, c ≠ '\\' ∧ c ≠ q)
    (ht : staysQuoted q t = true) : staysQuoted q (s ++ t) = true := by
  induction s with
  | nil => exact ht
  | cons c s ih =>
    obtain ⟨⟨hslash, hq⟩, hrest⟩ := List.forall_mem_cons.1 hs
    exact (staysQuoted_cons hslash).2 ⟨hq, ih hrest⟩

/-! ### Bare paths -/

/-- What cannot stand in a path without quotes. -/
def endsBare (c : Char) : Bool := c == ')' || c == '"' || c == '\''

/-- A path that can stand without quotes. -/
structure IsBare (path : List Char) : Prop where
  trimmed : Text.trimAscii path = path
  unbroken : ∀ c ∈ path, endsBare c = false

/-- Without quotes there is an occurrence exactly where a parenthesis closes it before any quote. -/
theorem matchUnquoted_eq_none_iff {keyword s : List Char} :
    matchUnquoted keyword s = none ↔ s.find? endsBare ≠ some ')' := by
  obtain ⟨inner, rest, rfl, hinner, hrest⟩ := Text.exists_splitAt (· == ')') s
  have hne : ∀ c ∈ inner, c ≠ ')' := fun c hc => beq_eq_false_iff_ne.1 (hinner c hc)
  have hclosed : inner.find? endsBare ≠ some ')' := fun hfind =>
    hne ')' (List.mem_of_find?_eq_some hfind) rfl
  unfold matchUnquoted
  rw [Text.splitAt_eq hinner hrest, List.find?_append]
  cases rest with
  | nil => simpa using hclosed
  | cons d rest =>
    obtain rfl : d = ')' := by simpa using hrest d rfl
    have hparen : (')' :: rest).find? endsBare = some ')' := rfl
    rw [hparen]
    by_cases hquote : inner.any (fun c => c == '"' || c == '\'') = true
    · have hfind : inner.find? endsBare ≠ none := by
        obtain ⟨c, hc, hquoted⟩ := List.any_eq_true.1 hquote
        rw [Ne, List.find?_eq_none, not_forall]
        refine ⟨c, fun hnot => hnot hc ?_⟩
        rw [endsBare, Bool.or_assoc, hquoted, Bool.or_true]
      obtain ⟨c, hc⟩ := Option.ne_none_iff_exists'.1 hfind
      rw [hc] at hclosed
      simpa [hquote, hc] using hclosed
    · have hfind : inner.find? endsBare = none := by
        rw [List.find?_eq_none]
        intro c hc hends
        simp only [endsBare, Bool.or_eq_true, beq_iff_eq] at hends
        refine hquote (List.any_eq_true.2 ⟨c, hc, ?_⟩)
        simpa [hne c hc] using hends
      simp [hquote, hfind]

theorem not_endsBare_of_isAsciiBlank {c : Char} (h : Text.isAsciiBlank c = true) :
    endsBare c = false := by
  simp only [Text.isAsciiBlank, Bool.or_eq_true, beq_iff_eq] at h
  rcases h with (((rfl | rfl) | rfl) | rfl) | rfl <;> rfl

theorem matchUnquoted_of_unbroken {keyword inner : List Char}
    (hinner : ∀ c ∈ inner, endsBare c = false) (rest : List Char) :
    matchUnquoted keyword (inner ++ ')' :: rest) =
      some
        (⟨keyword, inner.takeWhile Text.isAsciiBlank, Text.trimAscii inner,
          (inner.dropWhile Text.isAsciiBlank).rtakeWhile Text.isAsciiBlank ++ [')'], false⟩,
          rest) := by
  have hsplit : Text.splitAt (· == ')') (inner ++ ')' :: rest) = (inner, ')' :: rest) := by
    refine Text.splitAt_eq (fun c hc => ?_) (by simp)
    have hends := hinner c hc
    simp only [endsBare, Bool.or_eq_false_iff] at hends
    exact hends.1.1
  have hquotes : ¬inner.any (fun c => c == '"' || c == '\'') = true := by
    rw [List.any_eq_true]
    rintro ⟨c, hc, hquote⟩
    have hends := hinner c hc
    rw [endsBare, Bool.or_assoc, hquote, Bool.or_true] at hends
    cases hends
  unfold matchUnquoted
  rw [hsplit]
  split
  · next hparts =>
    cases hparts
    rw [if_neg hquotes]
    rfl
  · next hnot => exact absurd rfl (hnot inner rest)

theorem unbroken_of_isBare {blanks path blanks' : List Char}
    (hblanks : ∀ c ∈ blanks, Text.isAsciiBlank c = true) (hpath : IsBare path)
    (hblanks' : ∀ c ∈ blanks', Text.isAsciiBlank c = true) :
    ∀ c ∈ blanks ++ path ++ blanks', endsBare c = false := by
  intro c hc
  rcases List.mem_append.1 hc with hc | hc
  · rcases List.mem_append.1 hc with hc | hc
    · exact not_endsBare_of_isAsciiBlank (hblanks c hc)
    · exact hpath.unbroken c hc
  · exact not_endsBare_of_isAsciiBlank (hblanks' c hc)

theorem matchUnquoted_of_isBare {keyword blanks path blanks' : List Char}
    (hblanks : ∀ c ∈ blanks, Text.isAsciiBlank c = true) (hpath : IsBare path)
    (hblanks' : ∀ c ∈ blanks', Text.isAsciiBlank c = true) (hempty : path = [] → blanks' = [])
    (rest : List Char) :
    matchUnquoted keyword (blanks ++ path ++ blanks' ++ ')' :: rest) =
      some (⟨keyword, blanks, path, blanks' ++ [')'], false⟩, rest) := by
  have hinner := unbroken_of_isBare hblanks hpath hblanks'
  have htrim : Text.trimAscii (blanks ++ path ++ blanks') = path :=
    Text.trimBy_pad hblanks hblanks' hpath.trimmed
  have hfront : (path ++ blanks').dropWhile Text.isAsciiBlank = path ++ blanks' := by
    cases path with
    | nil =>
      rw [hempty rfl]
      rfl
    | cons c path =>
      have hc := Text.not_of_dropWhile_eq_self (Text.dropWhile_eq_self_of_trimBy hpath.trimmed)
      exact List.dropWhile_cons_of_neg (by simp [hc])
  rw [matchUnquoted_of_unbroken hinner, htrim, List.append_assoc,
    List.takeWhile_append_of_pos hblanks, List.dropWhile_append_of_pos hblanks, hfront,
    Text.takeWhile_eq_nil_of_dropWhile hfront, List.append_nil,
    Text.rtakeWhile_append (Text.rdropWhile_eq_self_of_trimBy hpath.trimmed) hblanks']

/-! ### Occurrences -/

def IsKeyword (keyword : List Char) : Prop :=
  ∃ u r l : Char, keyword = [u, r, l, '('] ∧ u.toLower = 'u' ∧ r.toLower = 'r' ∧ l.toLower = 'l'

/-- An occurrence of the form in which it is read again. -/
inductive Occurrence.Formed : Occurrence → Prop
  | quoted {keyword blanks path blanks' : List Char} {q : Char} (hkeyword : IsKeyword keyword)
      (hq : q = '"' ∨ q = '\'') (hblanks : ∀ c ∈ blanks, Text.isAsciiBlank c = true)
      (hpath : staysQuoted q path = true) (hblanks' : ∀ c ∈ blanks', Text.isAsciiBlank c = true) :
      Formed ⟨keyword, blanks ++ [q], path, q :: blanks' ++ [')'], true⟩
  | bare {keyword blanks path blanks' : List Char} (hkeyword : IsKeyword keyword)
      (hblanks : ∀ c ∈ blanks, Text.isAsciiBlank c = true) (hpath : IsBare path)
      (hblanks' : ∀ c ∈ blanks', Text.isAsciiBlank c = true) (hempty : path = [] → blanks' = []) :
      Formed ⟨keyword, blanks, path, blanks' ++ [')'], false⟩

theorem formed_of_matchQuoted {keyword s rest : List Char} {o : Occurrence}
    (hkeyword : IsKeyword keyword) (h : matchQuoted keyword s = some (o, rest)) : o.Formed := by
  unfold matchQuoted at h
  split at h
  · cases h
  · next q inside hs =>
    split at h
    · next hq =>
      split at h
      · cases h
      · next path after hp =>
        split at h
        · cases h
          exact .quoted hkeyword hq (fun c => List.mem_takeWhile_imp)
            (staysQuoted_of_splitQuoted hp) (fun c => List.mem_takeWhile_imp)
        · cases h
    · cases h

theorem formed_of_matchUnquoted {keyword s rest : List Char} {o : Occurrence}
    (hkeyword : IsKeyword keyword) (h : matchUnquoted keyword s = some (o, rest)) : o.Formed := by
  obtain ⟨inner, more, rfl, hinner⟩ :
      ∃ inner more, s = inner ++ ')' :: more ∧ ∀ c ∈ inner, endsBare c = false := by
    have hfind : s.find? endsBare = some ')' := by
      by_contra hfind
      rw [matchUnquoted_eq_none_iff.2 hfind] at h
      cases h
    obtain ⟨-, inner, more, hs, hinner⟩ := List.find?_eq_some_iff_append.1 hfind
    exact ⟨inner, more, hs, fun c hc => by simpa using hinner c hc⟩
  rw [matchUnquoted_of_unbroken hinner] at h
  cases h
  refine .bare hkeyword (fun c => List.mem_takeWhile_imp) ⟨Text.trimBy_trimBy _ _, fun c hc => ?_⟩
    (fun c => List.mem_rtakeWhile_imp) fun hnil => ?_
  · obtain ⟨front, back, hparts, -, -⟩ := Text.exists_pad Text.isAsciiBlank inner
    refine hinner c ?_
    rw [hparts]
    exact List.mem_append_left _ (List.mem_append_right _ hc)
  · rw [List.dropWhile_eq_nil_iff.2 (Text.trimBy_eq_nil_iff.1 hnil)]
    rfl

theorem formed_of_matchOccurrence {s rest : List Char} {o : Occurrence}
    (h : matchOccurrence s = some (o, rest)) : o.Formed := by
  unfold matchOccurrence at h
  split at h
  · next u r l s =>
    split at h
    · next hurl =>
      have hkeyword : IsKeyword [u, r, l, '('] := ⟨u, r, l, rfl, hurl⟩
      rcases Option.or_eq_some_iff.1 h with h | ⟨_, h⟩
      · exact formed_of_matchQuoted hkeyword h
      · exact formed_of_matchUnquoted hkeyword h
    · cases h
  · cases h

theorem not_isAsciiBlank_of_quote {q : Char} (hq : q = '"' ∨ q = '\'') :
    ¬Text.isAsciiBlank q = true := by
  rcases hq with rfl | rfl <;> decide

theorem matchQuoted_of_quote {keyword blanks path blanks' : List Char} {q : Char}
    (hq : q = '"' ∨ q = '\'') (hblanks : ∀ c ∈ blanks, Text.isAsciiBlank c = true)
    (hpath : staysQuoted q path = true) (hblanks' : ∀ c ∈ blanks', Text.isAsciiBlank c = true)
    (rest : List Char) :
    matchQuoted keyword (blanks ++ q :: (path ++ q :: (blanks' ++ ')' :: rest))) =
      some (⟨keyword, blanks ++ [q], path, q :: blanks' ++ [')'], true⟩, rest) := by
  have hslash : q ≠ '\\' := by rcases hq with rfl | rfl <;> decide
  have hquote := not_isAsciiBlank_of_quote hq
  unfold matchQuoted
  rw [List.dropWhile_append_of_pos hblanks, List.dropWhile_cons_of_neg hquote,
    List.takeWhile_append_of_pos hblanks, List.takeWhile_cons_of_neg hquote]
  simp only [if_pos hq, splitQuoted_of_staysQuoted hslash hpath]
  rw [List.dropWhile_append_of_pos hblanks', List.takeWhile_append_of_pos hblanks']
  simp [Text.isAsciiBlank]

/-- What does not start with a quote is no quoted path. -/
theorem matchQuoted_eq_none {keyword s : List Char}
    (h : ∀ c, (s.dropWhile Text.isAsciiBlank).head? = some c → c ≠ '"' ∧ c ≠ '\'') :
    matchQuoted keyword s = none := by
  unfold matchQuoted
  split
  · rfl
  · next q inside hs =>
    have hq := h q (by rw [hs]; rfl)
    rw [if_neg (not_or.2 hq)]

theorem head?_dropWhile_unbroken {inner : List Char} (hinner : ∀ c ∈ inner, endsBare c = false)
    (rest : List Char) :
    ∀ c, ((inner ++ ')' :: rest).dropWhile Text.isAsciiBlank).head? = some c →
      c ≠ '"' ∧ c ≠ '\'' := by
  induction inner with
  | nil =>
    rintro c hc
    cases hc
    decide
  | cons d inner ih =>
    obtain ⟨hd, hrest⟩ := List.forall_mem_cons.1 hinner
    rw [List.cons_append]
    by_cases hblank : Text.isAsciiBlank d = true
    · rw [List.dropWhile_cons_of_pos hblank]
      exact ih hrest
    · rw [List.dropWhile_cons_of_neg hblank]
      rintro c hc
      cases hc
      simp only [endsBare, Bool.or_eq_false_iff, beq_eq_false_iff_ne] at hd
      exact ⟨hd.1.2, hd.2⟩

theorem matchOccurrence_keyword {u r l : Char}
    (hurl : u.toLower = 'u' ∧ r.toLower = 'r' ∧ l.toLower = 'l') (s : List Char) :
    matchOccurrence (u :: r :: l :: '(' :: s) =
      (matchQuoted [u, r, l, '('] s).or (matchUnquoted [u, r, l, '('] s) :=
  if_pos hurl

theorem Occurrence.Formed.matchOccurrence_eq {o : Occurrence} (h : o.Formed) (rest : List Char) :
    matchOccurrence (o.text ++ rest) = some (o, rest) := by
  cases h with
  | @quoted keyword blanks path blanks' q hkeyword hq hblanks hpath hblanks' =>
    obtain ⟨u, r, l, rfl, hurl⟩ := hkeyword
    have htext :
        Occurrence.text ⟨[u, r, l, '('], blanks ++ [q], path, q :: blanks' ++ [')'], true⟩ ++ rest =
          u :: r :: l :: '(' :: (blanks ++ q :: (path ++ q :: (blanks' ++ ')' :: rest))) := by
      simp [Occurrence.text]
    rw [htext, matchOccurrence_keyword hurl, matchQuoted_of_quote hq hblanks hpath hblanks',
      Option.some_or]
  | @bare keyword blanks path blanks' hkeyword hblanks hpath hblanks' hempty =>
    obtain ⟨u, r, l, rfl, hurl⟩ := hkeyword
    have htext : Occurrence.text ⟨[u, r, l, '('], blanks, path, blanks' ++ [')'], false⟩ ++ rest =
        u :: r :: l :: '(' :: (blanks ++ path ++ blanks' ++ ')' :: rest) := by
      simp [Occurrence.text]
    have hinner := unbroken_of_isBare hblanks hpath hblanks'
    rw [htext, matchOccurrence_keyword hurl,
      matchQuoted_eq_none (head?_dropWhile_unbroken hinner rest), Option.none_or,
      matchUnquoted_of_isBare hblanks hpath hblanks' hempty]

/-! ### Other paths -/

/-- Whether a path can be read again where the occurrence has its own. -/
def Occurrence.admits (o : Occurrence) (path : List Char) : Bool :=
  if o.quoted then o.lead.getLast?.any (staysQuoted · path)
  else path.all (!endsBare ·) && Text.trimAscii path = path

theorem Occurrence.Formed.withPath {o : Occurrence} (h : o.Formed) {path : List Char}
    (hne : path ≠ []) (hadmits : o.admits path = true) : (o.withPath path).Formed := by
  cases h with
  | quoted hkeyword hq hblanks _ hblanks' =>
    exact .quoted hkeyword hq hblanks (by simpa [admits] using hadmits) hblanks'
  | bare hkeyword hblanks _ hblanks' _ =>
    obtain ⟨hunbroken, htrimmed⟩ :
        (∀ c ∈ path, endsBare c = false) ∧ Text.trimAscii path = path := by
      simpa [admits] using hadmits
    exact .bare hkeyword hblanks ⟨htrimmed, hunbroken⟩ hblanks' fun hnil => absurd hnil hne

def isPlain (c : Char) : Bool := c != '\\' && !endsBare c && !Text.isAsciiBlank c

theorem Occurrence.Formed.admits_of_isPlain {o : Occurrence} (h : o.Formed) {path : List Char}
    (hplain : ∀ c ∈ path, isPlain c = true) : o.admits path = true := by
  have hchar (c : Char) (hc : c ∈ path) :
      c ≠ '\\' ∧ endsBare c = false ∧ Text.isAsciiBlank c = false := by
    simpa [isPlain, and_assoc] using hplain c hc
  cases h with
  | @quoted _ _ _ _ q _ hq =>
    have hstays : staysQuoted q (path ++ []) = true := by
      refine staysQuoted_append (fun c hc => ⟨(hchar c hc).1, ?_⟩) rfl
      rintro rfl
      rcases hq with rfl | rfl <;> cases (hchar _ hc).2.1
    simpa [admits] using hstays
  | bare =>
    have htrim : Text.trimAscii path = path :=
      Text.trimBy_eq_self fun c hc => (hchar c hc).2.2
    simpa [admits, htrim] using fun c hc => (hchar c hc).2.1

end StylesheetAssets.Url
