import StylesheetAssets.Proofs.Stylesheet.Hidden
import StylesheetAssets.Proofs.Text.Placing
import StylesheetAssets.Proofs.Url.ExactReferences

/-!
References and the comments and strings of a value. The scan for references knows of neither; but
where it reads a quoted path, that path is a string for a head as well, and nothing in it is read.
-/
namespace StylesheetAssets.Url

open Stylesheet (HeadState isFiller isFiller_of_all isFiller_of_isBlank)
open Stylesheet.HeadState (after_append)
open Text (Within)

/-- Whether a comment or a string is open behind a text. -/
def endsHidden (front : List Char) : Bool := (HeadState.after {} front).isHidden

/-- A place of a value that lies in a comment or a string. -/
def HiddenAt (value : List Char) (offset : Nat) : Prop :=
  ∃ front rest, front ++ rest = value ∧ Text.byteLength front = offset ∧ endsHidden front = true

/-- Something that can be read as an occurrence, behind the text `front`. -/
inductive UrlAt (value : List Char) : List Char → Occurrence → Prop
  | intro {front rest after : List Char} {o : Occurrence} (hvalue : front ++ rest = value)
      (hapart : front.getLast?.any isWordChar = false)
      (hread : matchOccurrence rest = some (o, after)) : UrlAt value front o

/-- What can be read in a comment or a string lies within something that can be read outside. -/
def Shielded (value : List Char) : Prop :=
  ∀ front o, UrlAt value front o → endsHidden front = true →
    ∃ front' o', UrlAt value front' o' ∧ endsHidden front' = false ∧ Within front front' o'.text

def Fragment.url? : Fragment → Option Occurrence
  | .char _ => none
  | .url o => some o

/-- The occurrences that are read in a value, each with the text in front of it. -/
def scanned (value : List Char) : List (List Char × Occurrence) :=
  Text.picked Fragment.text Fragment.url? [] (fragments none value)

/-! ### What is read, and what is passed over -/

theorem url?_eq_some_iff (f : Fragment) (o : Occurrence) : f.url? = some o ↔ f = .url o := by
  cases f <;> simp [Fragment.url?]

theorem mem_scanned {value : List Char} {p : List Char × Occurrence} :
    p ∈ scanned value ↔ (p.1, .url p.2) ∈ Text.placed Fragment.text [] (fragments none value) :=
  Text.mem_picked_iff url?_eq_some_iff

/-- The first fragment of a text, and those behind it. -/
theorem fragments_eq_cons {previous : Option Char} {s : List Char} {f : Fragment}
    {fs : List Fragment} (h : fragments previous s = f :: fs) :
    ∃ rest, f.text ++ rest = s ∧ fs = fragments f.text.getLast? rest ∧
      ∀ o, f = .url o → previous.any isWordChar = false ∧ matchOccurrence s = some (o, rest) := by
  cases s with
  | nil =>
    rw [fragments] at h
    cases h
  | cons c s =>
    have hchar {o : Occurrence} : Fragment.char c ≠ .url o := by simp
    by_cases hword : previous.any isWordChar = true
    · rw [fragments_cons_of_word c s hword] at h
      cases h
      exact ⟨s, rfl, rfl, fun o ho => absurd ho hchar⟩
    · cases hmatch : matchOccurrence (c :: s) with
      | none =>
        rw [fragments_cons_of_none hmatch] at h
        cases h
        exact ⟨s, rfl, rfl, fun o ho => absurd ho hchar⟩
      | some found =>
        obtain ⟨o, after⟩ := found
        rw [fragments_of_occurrence hword hmatch] at h
        cases h
        refine ⟨after, matchOccurrence_append hmatch, ?_, fun o' ho' => ?_⟩
        · rw [Fragment.text, (formed_of_matchOccurrence hmatch).getLast?_text]
        · cases ho'
          exact ⟨by simpa using hword, rfl⟩

/-- What a scan goes on with behind its first fragments. -/
theorem fragments_eq_append (front : List Char) {s : List Char} {before behind : List Fragment}
    (h : fragments front.getLast? s = before ++ behind) :
    ∃ rest, before.flatMap Fragment.text ++ rest = s ∧
      behind = fragments (front ++ before.flatMap Fragment.text).getLast? rest := by
  induction before generalizing front s with
  | nil => exact ⟨s, rfl, by simpa using h.symm⟩
  | cons f before ih =>
    have hlast : f.text.getLast? = (front ++ f.text).getLast? := by
      cases f with
      | char c => simp [Fragment.text]
      | url o =>
        have hmem : .url o ∈ fragments front.getLast? s := by simp [h]
        simp [Fragment.text, List.getLast?_append, (formed_of_mem_fragments hmem).getLast?_text]
    obtain ⟨more, rfl, hmore, -⟩ := fragments_eq_cons h
    rw [hlast] at hmore
    obtain ⟨rest, rfl, hbehind⟩ := ih (front ++ f.text) hmore.symm
    exact ⟨rest, by simp, by simpa using hbehind⟩

theorem urlAt_of_mem_scanned {value : List Char} {p : List Char × Occurrence}
    (h : p ∈ scanned value) : UrlAt value p.1 p.2 := by
  obtain ⟨before, behind, hfragments, hfront⟩ := Text.mem_placed.1 (mem_scanned.1 h)
  obtain ⟨rest, hvalue, hbehind⟩ := fragments_eq_append [] hfragments
  obtain ⟨after, -, -, hread⟩ := fragments_eq_cons hbehind.symm
  obtain ⟨hapart, hmatch⟩ := hread p.2 rfl
  rw [List.nil_append] at hfront hapart
  rw [← hfront] at hvalue hapart
  exact .intro hvalue hapart hmatch

/-- The scan passes over nothing that can be read, but for what lies within an occurrence that it
reads. -/
theorem scanned_or_within {value front : List Char} {o : Occurrence} (h : UrlAt value front o) :
    (front, o) ∈ scanned value ∨ ∃ p ∈ scanned value, Within front p.1 p.2.text := by
  obtain ⟨hvalue, hapart, hread⟩ := h
  rename_i rest after
  have hspell : (fragments none value).flatMap Fragment.text = value := spell_fragments none value
  have hrest : rest ≠ [] := by
    rintro rfl
    cases hread
  obtain ⟨before, f, behind, hfragments, hplace⟩ :=
    Text.exists_placed (hvalue.trans hspell.symm) hrest
  have hmem : (before.flatMap Fragment.text, f) ∈
      Text.placed Fragment.text [] (fragments none value) :=
    Text.mem_placed.2 ⟨before, behind, hfragments, rfl⟩
  rcases hplace with rfl | hwithin
  · obtain ⟨rest', hvalue', hbehind⟩ := fragments_eq_append [] hfragments
    obtain rfl := List.append_cancel_left (hvalue'.trans hvalue.symm)
    rw [List.nil_append, fragments_of_occurrence (by simp [hapart]) hread] at hbehind
    obtain ⟨rfl, -⟩ := List.cons.inj hbehind
    exact .inl (mem_scanned.2 hmem)
  · cases f with
    | char c =>
      have hlength := hwithin.length_lt
      simp only [Fragment.text, List.length_cons, List.length_nil] at hlength
      omega
    | url o' => exact .inr ⟨(before.flatMap Fragment.text, o'), mem_scanned.2 hmem, hwithin⟩

theorem not_within_of_mem_scanned {value : List Char} {p p' : List Char × Occurrence}
    (h : p ∈ scanned value) (h' : p' ∈ scanned value) : ¬Within p.1 p'.1 p'.2.text :=
  fun hwithin => Text.not_within_of_mem_placed (mem_scanned.1 h) (mem_scanned.1 h') hwithin

theorem UrlAt.formed {value front : List Char} {o : Occurrence} (h : UrlAt value front o) :
    o.Formed := by
  obtain ⟨-, -, hread⟩ := h
  exact formed_of_matchOccurrence hread

/-! ### Quoted paths are strings -/

section Strings

variable {s : HeadState} {c q : Char}

theorem isFiller_of_letter (hc : c.toLower = 'u' ∨ c.toLower = 'r' ∨ c.toLower = 'l') :
    isFiller c = true :=
  isFiller_of_all (p := fun d => d.toLower = 'u' ∨ d.toLower = 'r' ∨ d.toLower = 'l') (by decide)
    (decide_eq_true hc)

theorem isFiller_of_isAsciiBlank (hc : Text.isAsciiBlank c = true) : isFiller c = true :=
  isFiller_of_isBlank (Text.isBlank_of_isAsciiBlank hc)

theorem mode_after_keyword (hs : s.isHidden = false) {keyword : List Char}
    (h : IsKeyword keyword) : (s.after keyword).mode = .plain := by
  obtain ⟨u, r, l, rfl, hu, hr, hl⟩ := h
  have hgap : Stylesheet.IsGap [u, r, l] := by
    refine ⟨by simp, ?_⟩
    simp only [List.forall_mem_cons]
    exact ⟨isFiller_of_letter (.inl hu), isFiller_of_letter (.inr (.inl hr)),
      isFiller_of_letter (.inr (.inr hl)), nofun⟩
  have hparen : (s.after ([u, r, l] ++ ['('])).mode = .plain := by
    rw [after_append]
    exact congrArg HeadState.mode (HeadState.step_of_plain (HeadState.mode_after_gap hs hgap) '(')
  exact hparen

/-- What stays quoted is a string, up to each of its places. -/
theorem isHidden_after_quoted (hs : s.mode = .string q) (front : List Char) {rest : List Char}
    (h : staysQuoted q (front ++ rest) = true) : (s.after front).isHidden = true := by
  generalize hbody : front ++ rest = body at h
  fun_induction staysQuoted q body generalizing s front with
  | case1 =>
    obtain ⟨rfl, -⟩ := List.append_eq_nil_iff.1 hbody
    rw [HeadState.after, List.foldl_nil, HeadState.isHidden, hs]
  | case2 c body ih =>
    have hescape : (s.step '\\').mode = .stringEscape q := by simp [HeadState.step, hs]
    cases front with
    | nil => rw [HeadState.after, List.foldl_nil, HeadState.isHidden, hs]
    | cons d front =>
      obtain ⟨rfl, htail⟩ := List.cons.inj hbody
      cases front with
      | nil =>
        rw [HeadState.after, List.foldl_cons, List.foldl_nil, HeadState.isHidden, hescape]
      | cons e front =>
        obtain ⟨rfl, hrest⟩ := List.cons.inj htail
        refine ih ?_ front hrest h
        rw [HeadState.step, hescape]
  | case3 c body hne ih =>
    simp only [Bool.and_eq_true, decide_eq_true_eq] at h
    cases front with
    | nil => rw [HeadState.after, List.foldl_nil, HeadState.isHidden, hs]
    | cons d front =>
      obtain ⟨rfl, htail⟩ := List.cons.inj hbody
      refine ih ?_ front htail h.2
      simp [HeadState.step, hs, h.1.1, h.1.2]

end Strings

/-- Where a letter of a quoted occurrence could start a further one, it stands in a string. -/
theorem endsHidden_within_quoted {front mid tail : List Char} {o : Occurrence} {c : Char}
    (ho : o.Formed) (hquoted : o.quoted = true) (hfront : endsHidden front = false)
    (htext : o.text = mid ++ c :: tail) (hmid : mid ≠ []) (hc : c.toLower = 'u') :
    endsHidden (front ++ mid) = true := by
  cases ho with
  | bare => cases hquoted
  | @quoted keyword blanks path blanks' q hkeyword hq hblanks hpath hblanks' =>
  have hopen : ((HeadState.after {} front).after (keyword ++ blanks ++ [q])).mode = .string q := by
    rw [after_append, after_append]
    refine HeadState.mode_step_quote ?_ hq
    exact HeadState.mode_after_fillers (mode_after_keyword hfront hkeyword)
      fun d hd => isFiller_of_isAsciiBlank (hblanks d hd)
  have hne {d : Char} (hd : d.toLower ≠ 'u') : c ≠ d := by
    rintro rfl
    exact hd hc
  have hquote : c ≠ q := hne (by rcases hq with rfl | rfl <;> decide)
  have hblank {d : Char} (hd : Text.isAsciiBlank d = true) : c ≠ d := hne (by
    simp only [Text.isAsciiBlank, Bool.or_eq_true, beq_iff_eq] at hd
    rcases hd with (((rfl | rfl) | rfl) | rfl) | rfl <;> decide)
  have hlead : c ∉ (keyword ++ blanks ++ [q]).tail := by
    obtain ⟨u, r, l, rfl, -, hr, hl⟩ := hkeyword
    have hkey : c ≠ r ∧ c ≠ l ∧ c ≠ '(' :=
      ⟨hne (by rw [hr]; decide), hne (by rw [hl]; decide), hne (by decide)⟩
    have hblanks : c ∉ blanks := fun hmem => hblank (hblanks c hmem) rfl
    simp [hkey, hblanks, hquote]
  have htrail : c ∉ q :: (blanks' ++ [')']) := by
    have hblanks' : c ∉ blanks' := fun hmem => hblank (hblanks' c hmem) rfl
    have hparen : c ≠ ')' := hne (by decide)
    simp [hquote, hblanks', hparen]
  have hparts : (keyword ++ blanks ++ [q]) ++ (path ++ q :: (blanks' ++ [')'])) =
      mid ++ c :: tail := by
    rw [← htext]
    simp [Occurrence.text]
  obtain ⟨more, rest, rfl, hmore⟩ := Text.exists_middle hparts hlead htrail hmid
  rw [hmore] at hpath
  rw [endsHidden, after_append, after_append]
  exact isHidden_after_quoted hopen more hpath

/-! ### Occurrences that overlap -/

/-- The text of a bare occurrence up to its parenthesis. -/
theorem Occurrence.Formed.exists_bare {o : Occurrence} (h : o.Formed) (hquoted : o.quoted = false) :
    ∃ inner, o.text = inner ++ [')'] ∧ ∀ c ∈ inner, endsBare c = false := by
  cases h with
  | quoted => cases hquoted
  | @bare keyword blanks path blanks' hkeyword hblanks hpath hblanks' _ =>
    refine ⟨keyword ++ (blanks ++ path ++ blanks'), by simp [Occurrence.text], fun c hc => ?_⟩
    rcases List.mem_append.1 hc with hc | hc
    · exact hkeyword.not_endsBare c hc
    · exact unbroken_of_isBare hblanks hpath hblanks' c hc

theorem append_cons_inj_of_unbroken {s t rest rest' : List Char}
    (hs : ∀ c ∈ s, endsBare c = false) (ht : ∀ c ∈ t, endsBare c = false)
    (h : s ++ ')' :: rest = t ++ ')' :: rest') : s = t ∧ rest = rest' := by
  induction s generalizing t with
  | nil =>
    cases t with
    | nil => exact ⟨rfl, (List.cons.inj h).2⟩
    | cons d t =>
      obtain ⟨rfl, -⟩ := List.cons.inj h
      cases ht ')' List.mem_cons_self
  | cons c s ih =>
    obtain ⟨hc, hs⟩ := List.forall_mem_cons.1 hs
    cases t with
    | nil =>
      obtain ⟨rfl, -⟩ := List.cons.inj h
      cases hc
    | cons d t =>
      obtain ⟨rfl, htail⟩ := List.cons.inj h
      obtain ⟨rfl, hrest⟩ := ih hs (List.forall_mem_cons.1 ht).2 htail
      exact ⟨rfl, hrest⟩

/-- What can be read within a bare occurrence ends where that one does. -/
theorem text_eq_of_within_bare {o o' : Occurrence} {mid tail rest rest' : List Char}
    (ho : o.Formed) (hquoted : o.quoted = false) (htext : o.text = mid ++ tail) (htail : tail ≠ [])
    (ho' : o'.Formed) (hread : o'.text ++ rest' = tail ++ rest) : o'.text = tail := by
  obtain ⟨inner, hinner, hunbroken⟩ := ho.exists_bare hquoted
  -- The rest of the bare text has no quote, so that nothing quoted can be read in it.
  obtain ⟨front, htailParts, hfront⟩ :
      ∃ front, tail = front ++ [')'] ∧ ∀ c ∈ front, endsBare c = false := by
    rw [hinner] at htext
    rcases List.append_eq_append_iff.1 htext with ⟨more, hmid, hlast⟩ | ⟨more, hmore, hlast⟩
    · cases more with
      | nil => exact ⟨[], hlast.symm, nofun⟩
      | cons d more =>
        obtain ⟨-, hnil⟩ := List.cons.inj hlast
        exact absurd (List.append_eq_nil_iff.1 hnil.symm).2 htail
    · refine ⟨more, hlast, fun c hc => hunbroken c ?_⟩
      rw [hmore]
      exact List.mem_append_right _ hc
  have hfind := ho'.find?_endsBare rest'
  rw [hread, htailParts, List.append_assoc, find?_append_of_not hfront] at hfind
  cases hq : o'.quoted with
  | true =>
    exfalso
    rw [hq, if_pos rfl] at hfind
    cases ho' with
    | bare => cases hq
    | @quoted _ _ _ _ q _ hq' =>
      rw [List.getLast?_concat] at hfind
      rcases hq' with rfl | rfl <;> cases hfind
  | false =>
    obtain ⟨inner', hinner', hunbroken'⟩ := ho'.exists_bare hq
    rw [hinner', htailParts, List.append_assoc, List.append_assoc] at hread
    obtain ⟨rfl, -⟩ := append_cons_inj_of_unbroken hunbroken' hfront hread
    rw [hinner', htailParts]

/-- Something read behind `front` can be read at a place within an occurrence only if that one is
bare, or its place is in a string. -/
theorem within_scanned {value front front' front'' : List Char} {o' o'' : Occurrence}
    (h : UrlAt value front' o') (h' : UrlAt value front'' o'') (hfront : endsHidden front' = false)
    (hfront' : endsHidden front'' = false) (hwithin : Within front' front'' o''.text)
    (hcovers : Within front front' o'.text) :
    Within front front'' o''.text := by
  obtain ⟨mid, tail, rfl, htext, hmid, htail⟩ := hwithin
  have ho := h.formed
  have ho' := h'.formed
  obtain ⟨hvalue, -, hread⟩ := h
  obtain ⟨hvalue', -, hread'⟩ := h'
  rename_i rest after rest' after'
  have hsplit : o'.text ++ after = tail ++ after' := by
    have hparts := hvalue.trans hvalue'.symm
    rw [← matchOccurrence_append hread', htext, List.append_assoc, List.append_assoc] at hparts
    rw [matchOccurrence_append hread]
    exact List.append_cancel_left (List.append_cancel_left hparts)
  cases hquoted : o''.quoted with
  | true =>
    obtain ⟨u, more, hu, hlower⟩ := ho.text_eq
    obtain ⟨c, tail, rfl⟩ := List.exists_cons_of_ne_nil htail
    rw [hu] at hsplit
    obtain ⟨rfl, -⟩ := List.cons.inj hsplit
    rw [endsHidden_within_quoted ho' hquoted hfront' htext hmid hlower] at hfront
    cases hfront
  | false =>
    have hsame := text_eq_of_within_bare ho' hquoted htext htail ho hsplit
    obtain ⟨mid', tail', rfl, htext', hmid', htail'⟩ := hcovers
    refine ⟨mid ++ mid', tail', by simp, ?_, by simp [hmid], htail'⟩
    rw [htext, ← hsame, htext', List.append_assoc]

/-! ### Values whose references stand outside -/

/-- Everything that is read stands outside of comments and strings exactly if the value is
shielded. -/
theorem shielded_iff {value : List Char} :
    Shielded value ↔ ∀ p ∈ scanned value, endsHidden p.1 = false := by
  constructor
  · intro h p hp
    induction hlen : p.1.length using Nat.strongRecOn generalizing p with
    | _ n ih =>
      subst hlen
      by_contra hhidden
      obtain ⟨front', o', hurl', hout', hwithin⟩ :=
        h p.1 p.2 (urlAt_of_mem_scanned hp) (by simpa using hhidden)
      rcases scanned_or_within hurl' with hscanned | ⟨p'', hp'', hwithin''⟩
      · exact not_within_of_mem_scanned hp hscanned hwithin
      · have hlt : p''.1.length < p.1.length :=
          Nat.lt_trans hwithin''.length_lt.1 hwithin.length_lt.1
        have hout'' := ih _ hlt p'' hp'' rfl
        have hcovers := within_scanned hurl' (urlAt_of_mem_scanned hp'') hout' hout'' hwithin''
          hwithin
        exact not_within_of_mem_scanned hp hp'' hcovers
  · intro h front o hurl hhidden
    rcases scanned_or_within hurl with hscanned | ⟨p, hp, hwithin⟩
    · have hout := h _ hscanned
      rw [hhidden] at hout
      cases hout
    · exact ⟨p.1, p.2, urlAt_of_mem_scanned hp, h p hp, hwithin⟩

theorem locate_eq_map_picked (front : List Char) (fs : List Fragment) :
    locate (Text.byteLength front) fs = (Text.picked Fragment.text Fragment.url? front fs).map
      fun p => (Text.byteLength p.1, p.2) := by
  induction fs generalizing front with
  | nil => rfl
  | cons f fs ih =>
    cases f with
    | char c =>
      have hbehind := ih (front ++ [c])
      rw [Text.byteLength_append] at hbehind
      exact hbehind
    | url o =>
      have hbehind := ih (front ++ o.text)
      rw [Text.byteLength_append] at hbehind
      exact congrArg ((Text.byteLength front, o) :: ·) hbehind

theorem mem_references {value : List Char} {r : Reference} (h : r ∈ references value) :
    ∃ p ∈ scanned value, p.2.isLocal = true ∧ r.span.start = Text.byteLength p.1 := by
  rw [references, ← Text.byteLength_nil, locate_eq_map_picked, List.filterMap_map,
    List.mem_filterMap] at h
  obtain ⟨p, hp, hr⟩ := h
  by_cases hlocal : p.2.isLocal = true
  · simp only [Function.comp_apply, hlocal, if_true, Option.some.injEq] at hr
    exact ⟨p, hp, hlocal, by rw [← hr]; rfl⟩
  · simp [hlocal] at hr

/-- Comments and strings hide nothing from the scan for references, apart from the paths in quotes
that it reads itself. A value keeps its references outside of comments and strings if whatever can
be read as a `url()` in one of them lies within a `url()` that starts outside; and no other value
has all that is read outside. -/
theorem references_shielded (value : String) :
    (Shielded value.toList ↔ ∀ p ∈ scanned value.toList, endsHidden p.1 = false) ∧
      (Shielded value.toList →
        ∀ r ∈ references value.toList, ¬HiddenAt value.toList r.span.start) := by
  refine ⟨shielded_iff, fun h r hr hhidden => ?_⟩
  obtain ⟨p, hp, -, hstart⟩ := mem_references hr
  obtain ⟨front, rest, hvalue, hlength, hopen⟩ := hhidden
  obtain ⟨hvalue', -, -⟩ := urlAt_of_mem_scanned hp
  obtain ⟨rfl, -⟩ :=
    append_inj_of_byteLength (hvalue.trans hvalue'.symm) (hlength.trans hstart)
  rw [shielded_iff.1 h p hp] at hopen
  cases hopen

/-- A path in quotes that holds what could be a reference, in front of a comment and a string. -/
def shieldedValue : String := "url(\"a url(b.png) c\") /* none */ 'x' URL( d.png )"

theorem references_shielded_shieldedValue :
    Shielded shieldedValue.toList ∧ (references shieldedValue.toList).length = 2 ∧
      ∀ r ∈ references shieldedValue.toList, ¬HiddenAt shieldedValue.toList r.span.start := by
  have h : Shielded shieldedValue.toList := shielded_iff.2 (by decide +kernel)
  exact ⟨h, by decide +kernel, (references_shielded shieldedValue).2 h⟩

/-- A `url()` that is not closed opens a string, and what can be read in that string is read. -/
theorem hiddenAt_unclosedPath :
    ∃ r ∈ references "url('broken url(b.png)".toList,
      HiddenAt "url('broken url(b.png)".toList r.span.start :=
  ⟨⟨⟨12, 22⟩, ⟨16, 21⟩, false⟩, by decide +kernel, "url('broken ".toList, "url(b.png)".toList,
    by decide +kernel, by decide +kernel, by decide +kernel⟩

end StylesheetAssets.Url
