import StylesheetAssets.Proofs.Stylesheet.ClosedHead

/-!
Gaps between the parts of a head: how they are filled makes no difference to the scan.
-/
namespace StylesheetAssets.Stylesheet

/-- A character that opens, closes and ends nothing. -/
def isFiller (c : Char) : Bool :=
  !(['"', '\'', '\\', '/', '*', '(', ')', '{', '}', ';'].contains c)

/-- A kind of characters without any that means something. -/
theorem isFiller_of_all {p : Char → Bool}
    (hp : (['"', '\'', '\\', '/', '*', '(', ')', '{', '}', ';'].all fun d => !p d) = true)
    {c : Char} (hc : p c = true) : isFiller c = true := by
  by_contra hfiller
  simp only [isFiller, Bool.not_eq_true, Bool.not_eq_false', List.contains_iff_mem] at hfiller
  have hno := List.all_eq_true.1 hp c hfiller
  rw [hc] at hno
  cases hno

theorem isFiller_of_isBlank {c : Char} (h : Text.isBlank c) : isFiller c = true :=
  isFiller_of_all (by decide) h

/-- A gap: not empty, and nothing but fillers. -/
structure IsGap (gap : List Char) : Prop where
  ne_nil : gap ≠ []
  fillers : ∀ c ∈ gap, isFiller c = true

theorem isGap_blanks {gap : List Char} (hne : gap ≠ []) (h : ∀ c ∈ gap, Text.isBlank c = true) :
    IsGap gap :=
  ⟨hne, fun c hc => isFiller_of_isBlank (h c hc)⟩

theorem isGap_blank : IsGap [' '] := ⟨by simp, List.forall_mem_singleton.2 rfl⟩

namespace HeadState

/-- The quotes of open strings are quotes. -/
def Sound (s : HeadState) : Prop :=
  ∀ q, s.mode = .string q ∨ s.mode = .stringEscape q → q = '"' ∨ q = '\''

theorem sound_stepPlain (depth : Nat) (c : Char) : (stepPlain depth c).Sound := by
  unfold stepPlain
  split_ifs with hquote
  · rintro q (hq | hq)
    · cases hq
      exact hquote
    · cases hq
  all_goals rintro q (hq | hq) <;> cases hq

theorem Sound.step {s : HeadState} (h : s.Sound) (c : Char) : (s.step c).Sound := by
  obtain ⟨mode, depth⟩ := s
  cases mode with
  | plain => exact sound_stepPlain depth c
  | slash =>
    simp only [HeadState.step]
    split_ifs
    · rintro q (hq | hq) <;> cases hq
    · exact sound_stepPlain depth c
  | string r =>
    simp only [HeadState.step]
    split_ifs
    · rintro q (hq | hq) <;> cases hq
      exact h r (.inl rfl)
    · rintro q (hq | hq) <;> cases hq
    · exact h
  | stringEscape r =>
    rintro q (hq | hq) <;> cases hq
    exact h r (.inr rfl)
  | escape => rintro q (hq | hq) <;> cases hq
  | comment | star =>
    simp only [HeadState.step]
    split_ifs <;> rintro q (hq | hq) <;> cases hq

theorem sound_after (cs : List Char) : (HeadState.after {} cs).Sound := by
  induction cs using List.reverseRecOn with
  | nil => rintro q (hq | hq) <;> cases hq
  | append_singleton cs c ih =>
    rw [after_append]
    exact ih.step c

/-- All fillers do the same to the scan. -/
theorem Sound.step_filler {s : HeadState} (h : s.Sound) {c : Char} (hc : isFiller c = true) :
    s.step c = s.step ' ' := by
  simp only [isFiller, Bool.not_eq_true', List.contains_eq_mem, decide_eq_false_iff_not,
    List.mem_cons, not_or] at hc
  obtain ⟨hdouble, hsingle, hslash, hdiv, hstar, hopen, hclose, -⟩ := hc
  have hplain : ∀ depth, stepPlain depth c = ⟨.plain, depth⟩ := fun depth => by
    rw [stepPlain, if_neg (not_or.2 ⟨hdouble, hsingle⟩), if_neg hslash, if_neg hdiv,
      if_neg hopen, if_neg hclose]
  obtain ⟨mode, depth⟩ := s
  cases mode with
  | plain => exact hplain depth
  | slash => exact (if_neg hstar).trans (hplain depth)
  | string q =>
    rcases h q (.inl rfl) with rfl | rfl <;> simp [HeadState.step, hslash, hdouble, hsingle]
  | comment => exact if_neg hstar
  | star => exact (if_neg hdiv).trans (if_neg hstar)
  | escape | stringEscape => rfl

theorem Sound.step_blank_blank {s : HeadState} (h : s.Sound) :
    (s.step ' ').step ' ' = s.step ' ' := by
  obtain ⟨mode, depth⟩ := s
  cases mode with
  | string q => rcases h q (.inl rfl) with rfl | rfl <;> rfl
  | stringEscape q => rcases h q (.inr rfl) with rfl | rfl <;> rfl
  | _ => rfl

/-- A gap does what one blank does. -/
theorem Sound.after_gap {s : HeadState} (h : s.Sound) {gap : List Char} (hgap : IsGap gap) :
    s.after gap = s.step ' ' := by
  obtain ⟨hne, hfillers⟩ := hgap
  induction gap generalizing s with
  | nil => exact absurd rfl hne
  | cons c gap ih =>
    have hstep : s.after (c :: gap) = (s.step ' ').after gap := by
      rw [← h.step_filler (hfillers c List.mem_cons_self)]
      rfl
    rw [hstep]
    cases gap with
    | nil => rfl
    | cons d gap =>
      rw [ih (h.step ' ') (by simp) fun e he => hfillers e (List.mem_cons_of_mem c he),
        h.step_blank_blank]

/-- The next character is taken for nothing. -/
def isEscaping (s : HeadState) : Bool :=
  match s.mode with
  | .escape | .stringEscape _ => true
  | _ => false

/-- A blank in front of a character is skipped. -/
theorem Sound.step_blank_step {s : HeadState} (h : s.Sound) (hs : s.isEscaping = false) {c : Char}
    (hslash : c ≠ '/') (hstar : c ≠ '*') : (s.step ' ').step c = s.step c := by
  obtain ⟨mode, depth⟩ := s
  cases mode with
  | plain => rfl
  | slash => exact (if_neg hstar).symm
  | string q => rcases h q (.inl rfl) with rfl | rfl <;> rfl
  | comment => rfl
  | star => exact (if_neg hstar).trans ((if_neg hslash).trans (if_neg hstar)).symm
  | escape | stringEscape => cases hs

theorem AtRest.step_blank {s : HeadState} (h : s.AtRest) : (s.step ' ').AtRest := by
  obtain ⟨mode, depth⟩ := s
  obtain ⟨rfl | rfl, hdepth⟩ := h <;> exact ⟨.inl rfl, hdepth⟩

theorem Sound.atRest_of_step_blank {s : HeadState} (h : s.Sound) (hs : s.isEscaping = false)
    (hrest : (s.step ' ').AtRest) : s.AtRest := by
  obtain ⟨mode, depth⟩ := s
  obtain ⟨hmode, hdepth⟩ := hrest
  cases mode with
  | plain => exact ⟨.inl rfl, hdepth⟩
  | slash => exact ⟨.inr rfl, hdepth⟩
  | string q => rcases h q (.inl rfl) with rfl | rfl <;> rcases hmode with hm | hm <;> cases hm
  | comment | star => rcases hmode with hm | hm <;> cases hm
  | escape | stringEscape => cases hs

end HeadState

open HeadState

/-- A text that ends behind a backslash, which takes its meaning from whatever is written next. -/
def endsInEscape (text : List Char) : Bool := (HeadState.after {} text).isEscaping

theorem IsGap.passes {gap : List Char} (h : IsGap gap) (s : HeadState) :
    (splitHead s gap).2 = [] := by
  have hfillers := h.fillers
  clear h
  induction gap generalizing s with
  | nil => rfl
  | cons c gap ih =>
    have hc := hfillers c List.mem_cons_self
    have hstop : ¬s.stops c = true := fun hstop => by
      simp only [stops, Bool.and_eq_true, Bool.or_eq_true, decide_eq_true_eq] at hstop
      rcases hstop.2 with (rfl | rfl) | rfl <;> cases hc
    rw [splitHead, if_neg hstop]
    exact ih _ fun d hd => hfillers d (List.mem_cons_of_mem c hd)

variable {front gap back : List Char}

theorem IsClosed.append_gap {text : List Char} (h : IsClosed text) (hgap : IsGap gap) :
    IsClosed (text ++ gap) := by
  refine ⟨passes_append.2 ⟨h.passes, hgap.passes _⟩, ?_⟩
  rw [after_append, (sound_after text).after_gap hgap]
  exact h.ended.step_blank

/-- A text with a gap in it is closed or not however the gap is filled. -/
theorem IsClosed.refill (h : IsClosed (front ++ gap ++ back)) (hgap : IsGap gap)
    {gap' : List Char} (hgap' : IsGap gap') : IsClosed (front ++ gap' ++ back) := by
  have hsound := sound_after front
  have hafter : HeadState.after {} (front ++ gap') = HeadState.after {} (front ++ gap) := by
    rw [after_append, after_append, hsound.after_gap hgap, hsound.after_gap hgap']
  obtain ⟨hfront, hback⟩ := passes_append.1 h.passes
  refine ⟨passes_append.2 ⟨passes_append.2 ⟨(passes_append.1 hfront).1, hgap'.passes _⟩, ?_⟩, ?_⟩
  · rwa [hafter]
  · have hended := h.ended
    rwa [after_append, ← hafter, ← after_append] at hended

/-- A gap in front of a text can be left out. -/
theorem IsClosed.of_gap_append (h : IsClosed (gap ++ back)) (hgap : IsGap gap) :
    IsClosed back := by
  have hafter : HeadState.after {} gap = {} := (sound_after []).after_gap hgap
  have hended := h.ended
  rw [after_append, hafter] at hended
  refine ⟨?_, hended⟩
  have hback := (passes_append.1 h.passes).2
  rwa [hafter] at hback

/-- A gap behind a text can be left out, unless it holds what a backslash escapes. -/
theorem IsClosed.of_append_gap (h : IsClosed (front ++ gap)) (hgap : IsGap gap)
    (hescape : endsInEscape front = false) : IsClosed front := by
  have hsound := sound_after front
  have hended := h.ended
  rw [after_append, hsound.after_gap hgap] at hended
  exact ⟨(passes_append.1 h.passes).1, hsound.atRest_of_step_blank hescape hended⟩

/-- A gap can be put in front of what is neither a slash nor a star. -/
theorem IsClosed.insert_gap {c : Char} (h : IsClosed (front ++ c :: back)) (hgap : IsGap gap)
    (hescape : endsInEscape front = false) (hslash : c ≠ '/') (hstar : c ≠ '*') :
    IsClosed (front ++ gap ++ c :: back) := by
  have hsound := sound_after front
  have hafter : HeadState.after {} (front ++ gap) = (HeadState.after {} front).step ' ' := by
    rw [after_append, hsound.after_gap hgap]
  have hstep := hsound.step_blank_step hescape hslash hstar
  obtain ⟨hfront, hback⟩ := passes_append.1 h.passes
  have hstop : ¬(HeadState.after {} front).stops c = true := fun hstop => by
    simp [splitHead, hstop] at hback
  have hstop' : ¬((HeadState.after {} front).step ' ').stops c = true := fun hstop' => by
    have hrest := hsound.atRest_of_step_blank hescape (atRest_of_stops hstop')
    exact hstop ((hrest.stops_iff c).2 (((atRest_of_stops hstop').stops_iff c).1 hstop'))
  refine ⟨passes_append.2 ⟨passes_append.2 ⟨hfront, hgap.passes _⟩, ?_⟩, ?_⟩
  · simp only [splitHead, if_neg hstop] at hback
    rw [hafter, splitHead, if_neg hstop', hstep, hback]
  · have hended := h.ended
    rw [after_append, after_cons] at hended
    rw [after_append, after_cons, hafter, hstep]
    exact hended

end StylesheetAssets.Stylesheet
