import Mathlib.Data.List.DropRight
import StylesheetAssets.Text

/-!
What trimming takes away from a text, and what it leaves.
-/
namespace StylesheetAssets.Text

variable {p : Char → Bool} {s : List Char}

theorem trimBy_eq_rdropWhile (p : Char → Bool) (s : List Char) :
    trimBy p s = (s.dropWhile p).rdropWhile p := rfl

theorem dropWhile_eq_self_of_trimBy (h : trimBy p s = s) : s.dropWhile p = s := by
  apply List.IsSuffix.eq_of_length_le (List.dropWhile_suffix p)
  have hle := (List.rdropWhile_prefix p (s.dropWhile p)).length_le
  rwa [← trimBy_eq_rdropWhile, h] at hle

theorem rdropWhile_eq_self_of_trimBy (h : trimBy p s = s) : s.rdropWhile p = s := by
  rw [trimBy_eq_rdropWhile, dropWhile_eq_self_of_trimBy h] at h
  exact h

theorem trimBy_eq_self (h : ∀ c ∈ s, p c = false) : trimBy p s = s := by
  have hfront : s.dropWhile p = s :=
    List.dropWhile_eq_self_iff.2 fun hlen => by simp [h _ (List.getElem_mem hlen)]
  rw [trimBy_eq_rdropWhile, hfront, List.rdropWhile_eq_self_iff]
  exact fun hne => by simp [h _ (List.getLast_mem hne)]

theorem rdropWhile_append_of_pos {back : List Char} (h : ∀ c ∈ back, p c = true) :
    (s ++ back).rdropWhile p = s.rdropWhile p := by
  unfold List.rdropWhile
  rw [List.reverse_append, List.dropWhile_append_of_pos fun c hc => h c (List.mem_reverse.1 hc)]

theorem trimBy_eq_self_iff :
    trimBy p s = s ↔ s.head?.any p = false ∧ s.getLast?.any p = false := by
  constructor
  · intro h
    have hfront := dropWhile_eq_self_of_trimBy h
    have hback := rdropWhile_eq_self_of_trimBy h
    cases s with
    | nil => exact ⟨rfl, rfl⟩
    | cons c s =>
      have hfirst := List.dropWhile_eq_self_iff.1 hfront
      have hlast := List.rdropWhile_eq_self_iff.1 hback (List.cons_ne_nil c s)
      rw [List.getLast?_eq_some_getLast (List.cons_ne_nil c s)]
      exact ⟨by simpa using hfirst, by simpa using hlast⟩
  · rintro ⟨hfirst, hlast⟩
    cases s with
    | nil => rfl
    | cons c s =>
      rw [List.getLast?_eq_some_getLast (List.cons_ne_nil c s)] at hlast
      have hfront : (c :: s).dropWhile p = c :: s :=
        List.dropWhile_cons_of_neg (by simpa using hfirst)
      rw [trimBy_eq_rdropWhile, hfront, List.rdropWhile_eq_self_iff]
      exact fun _ => by simpa using hlast

/-- Blanks around a trimmed text are all that is taken away. -/
theorem trimBy_pad {front back : List Char} (hfront : ∀ c ∈ front, p c = true)
    (hback : ∀ c ∈ back, p c = true) (h : trimBy p s = s) : trimBy p (front ++ s ++ back) = s := by
  rw [trimBy_eq_rdropWhile, List.append_assoc, List.dropWhile_append_of_pos hfront,
    List.dropWhile_append, dropWhile_eq_self_of_trimBy h]
  cases s with
  | nil => simp [List.dropWhile_eq_nil_iff.2 hback]
  | cons c s =>
    rw [List.isEmpty_cons, if_neg Bool.false_ne_true, rdropWhile_append_of_pos hback,
      rdropWhile_eq_self_of_trimBy h]

theorem trim_blank_cons (s : List Char) : trim (' ' :: s) = trim s := by
  rw [trim, trim, trimBy_eq_rdropWhile, trimBy_eq_rdropWhile,
    List.dropWhile_cons_of_pos (by decide)]

theorem trim_concat_blank (h : trim s = s) : trim (s ++ [' ']) = s :=
  @trimBy_pad isBlank s [] [' '] nofun (List.forall_mem_singleton.2 rfl) h

/-- A text that starts like one without a blank in front, and ends like one without a blank
behind. -/
theorem trimBy_append {t : List Char} (hs : s.dropWhile p = s) (hne : s ≠ [])
    (ht : t.rdropWhile p = t) (hnt : t ≠ []) : trimBy p (s ++ t) = s ++ t := by
  rw [trimBy_eq_rdropWhile, List.dropWhile_append, hs, if_neg (by simpa using hne),
    List.rdropWhile_eq_self_iff]
  intro _
  rw [List.getLast_append_of_ne_nil _ hnt]
  exact List.rdropWhile_eq_self_iff.1 ht hnt

/-- A text is what trimming leaves of it, between blanks. -/
theorem exists_pad (p : Char → Bool) (s : List Char) :
    ∃ front back, s = front ++ trimBy p s ++ back ∧ (∀ c ∈ front, p c = true) ∧
      ∀ c ∈ back, p c = true := by
  refine ⟨s.takeWhile p, (s.dropWhile p).rtakeWhile p, ?_, ?_, ?_⟩
  · rw [List.append_assoc, trimBy_eq_rdropWhile, List.rdropWhile_append_rtakeWhile,
      List.takeWhile_append_dropWhile]
  · exact fun c => List.mem_takeWhile_imp
  · exact fun c => List.mem_rtakeWhile_imp

theorem not_of_dropWhile_eq_self {c : Char} (h : (c :: s).dropWhile p = c :: s) : p c = false :=
  eq_false_of_ne_true (List.dropWhile_eq_self_iff.1 h (by simp))

theorem takeWhile_eq_nil_of_dropWhile (h : s.dropWhile p = s) : s.takeWhile p = [] := by
  have hparts := List.takeWhile_append_dropWhile (p := p) (l := s)
  rw [h] at hparts
  exact List.append_left_eq_self.1 hparts

/-- What starts a text without a blank in front has none in front either. -/
theorem dropWhile_eq_self_of_prefix {t : List Char} (h : t <+: s) (hs : s.dropWhile p = s) :
    t.dropWhile p = t := by
  obtain ⟨more, rfl⟩ := h
  cases t with
  | nil => rfl
  | cons c t => exact List.dropWhile_cons_of_neg (by simp [not_of_dropWhile_eq_self hs])

theorem trimBy_trimBy (p : Char → Bool) (s : List Char) : trimBy p (trimBy p s) = trimBy p s := by
  have hfront : (trimBy p s).dropWhile p = trimBy p s :=
    dropWhile_eq_self_of_prefix (List.rdropWhile_prefix p _) (List.dropWhile_idempotent p s)
  rw [trimBy_eq_rdropWhile p (trimBy p s), hfront, trimBy_eq_rdropWhile, List.rdropWhile_idempotent]

theorem trimBy_eq_nil_iff : trimBy p s = [] ↔ ∀ c ∈ s, p c = true := by
  constructor
  · intro h c hc
    obtain ⟨front, back, hs, hfront, hback⟩ := exists_pad p s
    rw [h, List.append_nil] at hs
    rw [hs] at hc
    exact (List.mem_append.1 hc).elim (hfront c) (hback c)
  · intro h
    rw [trimBy_eq_rdropWhile, List.dropWhile_eq_nil_iff.2 h]
    rfl

/-- What ends a text without a blank behind has none behind either. -/
theorem rdropWhile_eq_self_of_suffix {t : List Char} (h : t <:+ s) (hs : s.rdropWhile p = s) :
    t.rdropWhile p = t := by
  obtain ⟨more, rfl⟩ := h
  rw [List.rdropWhile_eq_self_iff] at hs ⊢
  intro hne
  have hlast := hs (by simp [hne])
  rwa [List.getLast_append_of_ne_nil _ hne] at hlast

theorem rtakeWhile_append {t : List Char} (hs : s.rdropWhile p = s) (ht : ∀ c ∈ t, p c = true) :
    (s ++ t).rtakeWhile p = t := by
  have hback : s.reverse.dropWhile p = s.reverse := by
    rwa [List.rdropWhile, List.reverse_eq_iff] at hs
  rw [List.rtakeWhile, List.reverse_append,
    List.takeWhile_append_of_pos fun c hc => ht c (List.mem_reverse.1 hc),
    takeWhile_eq_nil_of_dropWhile hback, List.append_nil, List.reverse_reverse]

theorem exists_front (h : s.rdropWhile p = s) :
    ∃ front, s = front ++ trimBy p s ∧ ∀ c ∈ front, p c = true := by
  refine ⟨s.takeWhile p, ?_, fun c => List.mem_takeWhile_imp⟩
  rw [trimBy_eq_rdropWhile, rdropWhile_eq_self_of_suffix (List.dropWhile_suffix p) h,
    List.takeWhile_append_dropWhile]

/-- Blanks behind a text make no difference to what trimming leaves of it. -/
theorem trimBy_rdropWhile (p : Char → Bool) (s : List Char) :
    trimBy p (s.rdropWhile p) = trimBy p s := by
  obtain ⟨front, hs, hfront⟩ := exists_front (List.rdropWhile_idempotent p s)
  have hback : ∀ c ∈ s.rtakeWhile p, p c = true := fun c => List.mem_rtakeWhile_imp
  have hpad := trimBy_pad hfront hback (trimBy_trimBy p (s.rdropWhile p))
  rw [← hs, List.rdropWhile_append_rtakeWhile] at hpad
  exact hpad.symm

theorem trimBy_dropWhile (p : Char → Bool) (s : List Char) :
    trimBy p (s.dropWhile p) = trimBy p s := by
  rw [trimBy_eq_rdropWhile, List.dropWhile_idempotent]
  rfl

theorem length_trimBy_le (p : Char → Bool) (s : List Char) : (trimBy p s).length ≤ s.length := by
  obtain ⟨front, back, hs, -, -⟩ := exists_pad p s
  have hlength := congrArg List.length hs
  simp only [List.length_append] at hlength
  omega

theorem eq_nil_of_trimBy (h : s.rdropWhile p = s) (hnil : trimBy p s = []) : s = [] := by
  rw [← h, List.rdropWhile_eq_nil_iff]
  exact trimBy_eq_nil_iff.1 hnil

end StylesheetAssets.Text
