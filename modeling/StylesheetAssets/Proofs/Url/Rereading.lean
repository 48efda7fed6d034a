import Mathlib.Data.List.Forall2
import StylesheetAssets.Proofs.Url.Form

/-!
Values in which the paths of occurrences were exchanged, and how they are read.
-/
namespace StylesheetAssets.Url

/-- A fragment, and what it is with another path that fits. -/
inductive Exchanged : Fragment → Fragment → Prop
  | char (c : Char) : Exchanged (.char c) (.char c)
  | url {o : Occurrence} {path : List Char} (formed : (o.withPath path).Formed) :
      Exchanged (.url o) (.url (o.withPath path))

/-- Whether the text starts with `url(` and a quote. -/
def opensQuoted : List Char → Bool
  | u :: r :: l :: '(' :: s =>
    u.toLower = 'u' && r.toLower = 'r' && l.toLower = 'l' &&
      (s.dropWhile Text.isAsciiBlank).head?.any fun c => c == '"' || c == '\''
  | _ => false

/-- Whether every quote behind a `url(` belongs to an occurrence. The fragments follow the character
`previous`. -/
def quotesRead (previous : Option Char) : List Fragment → Bool
  | [] => true
  | .char c :: fs =>
    (previous.any isWordChar || !opensQuoted (c :: spell fs)) && quotesRead (some c) fs
  | .url _ :: fs => quotesRead (some ')') fs

theorem spell_cons (f : Fragment) (fs : List Fragment) : spell (f :: fs) = f.text ++ spell fs :=
  List.flatMap_cons

theorem formed_of_mem_fragments {previous : Option Char} {s : List Char} {o : Occurrence}
    (h : .url o ∈ fragments previous s) : o.Formed := by
  fun_induction fragments previous s with
  | case1 => cases h
  | case2 previous c rest _ ih => exact ih (by simpa using h)
  | case3 previous c rest _ o' after hmatch _ ih =>
    rcases List.mem_cons.1 h with h | h
    · cases h
      exact formed_of_matchOccurrence hmatch
    · exact ih h
  | case4 previous c rest _ _ ih => exact ih (by simpa using h)

theorem Occurrence.Formed.text_eq {o : Occurrence} (h : o.Formed) :
    ∃ u t, o.text = u :: t ∧ u.toLower = 'u' := by
  cases h with
  | quoted hkeyword =>
    obtain ⟨u, r, l, rfl, hu, -⟩ := hkeyword
    exact ⟨u, _, rfl, hu⟩
  | bare hkeyword =>
    obtain ⟨u, r, l, rfl, hu, -⟩ := hkeyword
    exact ⟨u, _, rfl, hu⟩

/-- A character that starts no occurrence stands for itself. -/
theorem spell_uncons {fs : List Fragment} {d : Char} {t : List Char}
    (hformed : ∀ o, Fragment.url o ∈ fs → o.Formed) (hd : d.toLower ≠ 'u')
    (h : spell fs = d :: t) : ∃ gs, fs = .char d :: gs ∧ spell gs = t := by
  cases fs with
  | nil => cases h
  | cons f fs =>
    cases f with
    | char c =>
      obtain ⟨rfl, rfl⟩ := List.cons.inj h
      exact ⟨fs, rfl, rfl⟩
    | url o =>
      obtain ⟨u, s, htext, hu⟩ := (hformed o List.mem_cons_self).text_eq
      rw [spell_cons, Fragment.text, htext] at h
      obtain ⟨rfl, -⟩ := List.cons.inj h
      exact absurd hu hd

theorem find?_append_of_not {s : List Char} (hs : ∀ c ∈ s, endsBare c = false) (t : List Char) :
    (s ++ t).find? endsBare = t.find? endsBare := by
  have hnone : s.find? endsBare = none :=
    List.find?_eq_none.2 fun c hc => by simp [hs c hc]
  rw [List.find?_append, hnone, Option.none_or]

theorem not_endsBare_of_toLower {c d : Char} (h : c.toLower = d) (hd : d.isAlpha = true) :
    endsBare c = false := by
  by_contra hc
  simp only [endsBare, Bool.not_eq_false, Bool.or_eq_true, beq_iff_eq] at hc
  subst h
  rcases hc with (rfl | rfl) | rfl <;> revert hd <;> decide

theorem IsKeyword.not_endsBare {keyword : List Char} (h : IsKeyword keyword) :
    ∀ c ∈ keyword, endsBare c = false := by
  obtain ⟨u, r, l, rfl, hu, hr, hl⟩ := h
  simp only [List.forall_mem_cons]
  exact ⟨not_endsBare_of_toLower hu rfl, not_endsBare_of_toLower hr rfl,
    not_endsBare_of_toLower hl rfl, rfl, nofun⟩

/-- Where the text of an occurrence can first be ended does not depend on its path. -/
theorem Occurrence.Formed.find?_endsBare {o : Occurrence} (h : o.Formed) (rest : List Char) :
    (o.text ++ rest).find? endsBare = if o.quoted then o.lead.getLast? else some ')' := by
  cases h with
  | @quoted keyword blanks path blanks' q hkeyword hq hblanks _ _ =>
    have hfront : ∀ c ∈ keyword ++ blanks, endsBare c = false := by
      simpa [or_imp, forall_and] using
        ⟨hkeyword.not_endsBare, fun c hc => not_endsBare_of_isAsciiBlank (hblanks c hc)⟩
    have hends : endsBare q = true := by rcases hq with rfl | rfl <;> rfl
    have htext : Occurrence.text ⟨keyword, blanks ++ [q], path, q :: blanks' ++ [')'], true⟩ ++
        rest = (keyword ++ blanks) ++ q :: (path ++ (q :: blanks' ++ [')']) ++ rest) := by
      simp [Occurrence.text]
    rw [htext, find?_append_of_not hfront, List.find?_cons_of_pos hends]
    simp
  | @bare keyword blanks path blanks' hkeyword hblanks hpath hblanks' _ =>
    have hfront : ∀ c ∈ keyword ++ (blanks ++ path ++ blanks'), endsBare c = false := fun c hc =>
      (List.mem_append.1 hc).elim (hkeyword.not_endsBare c)
        (unbroken_of_isBare hblanks hpath hblanks' c)
    have htext : Occurrence.text ⟨keyword, blanks, path, blanks' ++ [')'], false⟩ ++ rest =
        (keyword ++ (blanks ++ path ++ blanks')) ++ ')' :: rest := by
      simp [Occurrence.text]
    rw [htext, find?_append_of_not hfront]
    rfl

theorem find?_spell {fs gs : List Fragment} (hformed : ∀ o, Fragment.url o ∈ fs → o.Formed)
    (h : List.Forall₂ Exchanged fs gs) : (spell gs).find? endsBare = (spell fs).find? endsBare := by
  induction h with
  | nil => rfl
  | @cons f g fs gs hfg _ ih =>
    have hrest := ih fun o ho => hformed o (List.mem_cons_of_mem f ho)
    rw [spell_cons, spell_cons]
    cases hfg with
    | char c => rw [List.find?_append, List.find?_append, hrest]
    | @url o path hpath =>
      have ho := hformed o List.mem_cons_self
      rw [Fragment.text, Fragment.text, hpath.find?_endsBare, ho.find?_endsBare]
      rfl

theorem Occurrence.Formed.head?_dropWhile {o : Occurrence} (h : o.Formed) (rest : List Char) :
    ((o.text ++ rest).dropWhile Text.isAsciiBlank).head? = o.keyword.head? := by
  have hkeyword : IsKeyword o.keyword := by cases h <;> assumption
  obtain ⟨u, r, l, heq, hu, -⟩ := hkeyword
  have hblank : ¬Text.isAsciiBlank u = true := fun hblank => by
    simp only [Text.isAsciiBlank, Bool.or_eq_true, beq_iff_eq] at hblank
    rcases hblank with (((rfl | rfl) | rfl) | rfl) | rfl <;> revert hu <;> decide
  rw [Occurrence.text, heq]
  simp [hblank]

theorem head?_dropWhile_spell {fs gs : List Fragment}
    (hformed : ∀ o, Fragment.url o ∈ fs → o.Formed) (h : List.Forall₂ Exchanged fs gs) :
    ((spell gs).dropWhile Text.isAsciiBlank).head? =
      ((spell fs).dropWhile Text.isAsciiBlank).head? := by
  induction h with
  | nil => rfl
  | @cons f g fs gs hfg _ ih =>
    have hrest := ih fun o ho => hformed o (List.mem_cons_of_mem f ho)
    rw [spell_cons, spell_cons]
    cases hfg with
    | char c =>
      by_cases hc : Text.isAsciiBlank c = true
      · simpa [Fragment.text, hc] using hrest
      · simp [Fragment.text, hc]
    | @url o path hpath =>
      have ho := hformed o List.mem_cons_self
      rw [Fragment.text, Fragment.text, hpath.head?_dropWhile, ho.head?_dropWhile]
      rfl

theorem keyword_of_matchOccurrence {s rest : List Char} {o : Occurrence}
    (h : matchOccurrence s = some (o, rest)) :
    ∃ u r l t, s = u :: r :: l :: '(' :: t ∧
      (u.toLower = 'u' ∧ r.toLower = 'r' ∧ l.toLower = 'l') := by
  unfold matchOccurrence at h
  split at h
  · next u r l t =>
    split at h
    · next hurl => exact ⟨u, r, l, t, rfl, hurl⟩
    · cases h
  · cases h

theorem formed_of_exchanged {fs gs : List Fragment} (h : List.Forall₂ Exchanged fs gs) :
    ∀ o, Fragment.url o ∈ gs → o.Formed := by
  induction h with
  | nil => nofun
  | cons hfg _ ih =>
    intro o ho
    rcases List.mem_cons.1 ho with rfl | ho
    · cases hfg with
      | url hformed => exact hformed
    · exact ih o ho

/-- A character that starts no occurrence was there before the exchange. -/
theorem exchanged_uncons {fs gs : List Fragment} {d : Char} {t : List Char}
    (h : List.Forall₂ Exchanged fs gs) (hd : d.toLower ≠ 'u') (hspell : spell gs = d :: t) :
    ∃ fs' gs', fs = .char d :: fs' ∧ List.Forall₂ Exchanged fs' gs' ∧ spell gs' = t := by
  obtain ⟨gs', rfl, hrest⟩ := spell_uncons (formed_of_exchanged h) hd hspell
  cases h with
  | @cons f _ fs' _ hfg h =>
    cases hfg with
    | char => exact ⟨fs', gs', rfl, h, hrest⟩

/-- What is read as no occurrence stays so, unless it opens a quote. -/
theorem matchOccurrence_exchanged {c : Char} {fs gs : List Fragment}
    (hformed : ∀ o, Fragment.url o ∈ fs → o.Formed) (h : List.Forall₂ Exchanged fs gs)
    (hnone : matchOccurrence (c :: spell fs) = none)
    (hquote : opensQuoted (c :: spell fs) = false) :
    matchOccurrence (c :: spell gs) = none := by
  by_contra hsome
  obtain ⟨⟨o, rest⟩, ho⟩ := Option.ne_none_iff_exists'.1 hsome
  obtain ⟨u, r, l, t, htext, hurl⟩ := keyword_of_matchOccurrence ho
  obtain ⟨rfl, hspell⟩ := List.cons.inj htext
  -- The keyword consists of characters that were there before.
  obtain ⟨fs₁, gs₁, rfl, h₁, hspell₁⟩ := exchanged_uncons h (by simp [hurl.2.1]) hspell
  obtain ⟨fs₂, gs₂, rfl, h₂, hspell₂⟩ := exchanged_uncons h₁ (by simp [hurl.2.2]) hspell₁
  obtain ⟨fs₃, gs₃, rfl, h₃, rfl⟩ := exchanged_uncons h₂ (by decide) hspell₂
  have hformed₃ : ∀ o, Fragment.url o ∈ fs₃ → o.Formed := fun o ho => hformed o (by simp [ho])
  have hold : matchOccurrence (c :: r :: l :: '(' :: spell fs₃) = none := hnone
  have hclosed : opensQuoted (c :: r :: l :: '(' :: spell fs₃) = false := hquote
  rw [hspell, matchOccurrence_keyword hurl] at ho
  rw [matchOccurrence_keyword hurl] at hold
  rcases Option.or_eq_some_iff.1 ho with hquoted | ⟨_, hunquoted⟩
  · rw [matchQuoted_eq_none fun d hd => ?_] at hquoted
    · cases hquoted
    · rw [head?_dropWhile_spell hformed₃ h₃] at hd
      simpa [opensQuoted, hurl, hd] using hclosed
  · refine matchUnquoted_eq_none_iff.1 (Option.or_eq_none_iff.1 hold).2 ?_
    rw [← find?_spell hformed₃ h₃]
    by_contra hfind
    rw [matchUnquoted_eq_none_iff.2 hfind] at hunquoted
    cases hunquoted

theorem fragments_cons_of_word {previous : Option Char} (c : Char) (rest : List Char)
    (h : previous.any isWordChar = true) :
    fragments previous (c :: rest) = .char c :: fragments (some c) rest := by
  rw [fragments, if_pos h]

theorem fragments_of_occurrence {previous : Option Char} {s rest : List Char} {o : Occurrence}
    (h : ¬previous.any isWordChar = true) (ho : matchOccurrence s = some (o, rest)) :
    fragments previous s = .url o :: fragments (some ')') rest := by
  cases s with
  | nil => cases ho
  | cons c s =>
    rw [fragments, if_neg h]
    split
    · next heq =>
      rw [ho] at heq
      cases heq
      rfl
    · next heq =>
      rw [ho] at heq
      cases heq

theorem fragments_cons_of_none {previous : Option Char} {c : Char} {rest : List Char}
    (h : matchOccurrence (c :: rest) = none) :
    fragments previous (c :: rest) = .char c :: fragments (some c) rest := by
  by_cases hword : previous.any isWordChar = true
  · exact fragments_cons_of_word c rest hword
  · rw [fragments, if_neg hword]
    split
    · next heq =>
      rw [h] at heq
      cases heq
    · rfl

/-- The fragments of a value whose quotes are all read are found again when paths of them are
exchanged. -/
theorem fragments_exchanged {previous : Option Char} {s : List Char} {gs : List Fragment}
    (h : List.Forall₂ Exchanged (fragments previous s) gs)
    (hquotes : quotesRead previous (fragments previous s) = true) :
    fragments previous (spell gs) = gs := by
  fun_induction fragments previous s generalizing gs with
  | case1 =>
    cases h
    rw [spell, List.flatMap_nil, fragments]
  | case2 previous c rest hword ih =>
    cases h with
    | @cons _ _ _ gs hfg h =>
    cases hfg with
    | char =>
    rw [quotesRead, Bool.and_eq_true] at hquotes
    exact (fragments_cons_of_word c (spell gs) hword).trans (congrArg _ (ih h hquotes.2))
  | case3 previous c rest hword o after hmatch _ ih =>
    cases h with
    | @cons _ _ _ gs hfg h =>
    cases hfg with
    | @url _ path hformed =>
    have hread := fragments_of_occurrence hword (hformed.matchOccurrence_eq (spell gs))
    exact hread.trans (congrArg _ (ih h hquotes))
  | case4 previous c rest hword hnone ih =>
    cases h with
    | @cons _ _ _ gs hfg h =>
    cases hfg with
    | char =>
    -- Nothing starts here, and the exchange behind this character cannot make anything start.
    rw [quotesRead, Bool.and_eq_true, spell_fragments] at hquotes
    have hclosed : opensQuoted (c :: rest) = false := by simpa [hword] using hquotes.1
    have hnone' : matchOccurrence (c :: spell gs) = none :=
      matchOccurrence_exchanged (fun o => formed_of_mem_fragments) h
        (by rwa [spell_fragments]) (by rwa [spell_fragments])
    exact (fragments_cons_of_none hnone').trans (congrArg _ (ih h hquotes.2))

end StylesheetAssets.Url
