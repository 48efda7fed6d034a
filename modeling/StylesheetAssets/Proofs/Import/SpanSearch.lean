import Mathlib.Data.List.TakeWhile
import StylesheetAssets.Proofs.Import.Regions

/-!
Whether an offset lies in one of the spans of a list, asked of a single one that is found by halves.
-/
namespace StylesheetAssets.Import

/-! ### Halving -/

section Halving

variable {α : Type}

/-- The first of the `size` places from `base` on that is not of the kind `p`, if those that are
come first. -/
def bisect (p : α → Bool) (xs : List α) (base size : Nat) : Nat :=
  if 1 < size then
    let half := size / 2
    bisect p xs (if xs[base + half]?.any p then base + half else base) (size - half)
  else base + if xs[base]?.any p then 1 else 0
termination_by size

/-- How many elements are of the kind `p`, if those that are come first. -/
def partitionPoint (p : α → Bool) (xs : List α) : Nat := bisect p xs 0 xs.length

/-- What is looked for stays between `base` and the end of the places that are left. -/
theorem bisect_eq {p : α → Bool} {xs : List α} {k base size : Nat}
    (hp : ∀ i, xs[i]?.any p = true ↔ i < k) (hbase : base ≤ k) (hsize : k ≤ base + size) :
    bisect p xs base size = k := by
  fun_induction bisect p xs base size with
  | case1 base size hlt half ih =>
    have hhalf : half = size / 2 := rfl
    simp only [hp] at ih ⊢
    by_cases hmid : base + half < k
    · simp only [if_pos hmid, dif_pos hmid] at ih ⊢
      exact ih (Nat.le_of_lt hmid) (by omega)
    · simp only [if_neg hmid, dif_neg hmid] at ih ⊢
      exact ih hbase (by omega)
  | case2 base size hle =>
    simp only [hp]
    split <;> omega

theorem partitionPoint_append {p : α → Bool} {front back : List α}
    (hfront : ∀ x ∈ front, p x = true) (hback : ∀ x ∈ back, p x = false) :
    partitionPoint p (front ++ back) = front.length := by
  refine bisect_eq (fun i => ?_) (Nat.zero_le _) (by simp)
  rcases Nat.lt_or_ge i front.length with hi | hi
  · rw [List.getElem?_append_left hi, List.getElem?_eq_getElem hi]
    exact iff_of_true (hfront _ (List.getElem_mem hi)) hi
  · rw [List.getElem?_append_right hi, Option.any_eq_true]
    refine iff_of_false ?_ (Nat.not_lt.2 hi)
    rintro ⟨x, hx, hpx⟩
    rw [hback x (List.mem_of_getElem? hx)] at hpx
    cases hpx

/-- The element that is found is the first that is not of the kind. -/
theorem getElem?_partitionPoint {p : α → Bool} {xs : List α}
    (h : ∀ x ∈ xs.dropWhile p, p x = false) :
    xs[partitionPoint p xs]? = (xs.dropWhile p).head? := by
  have hparts := List.takeWhile_append_dropWhile (p := p) (l := xs)
  have hfront : ∀ x ∈ xs.takeWhile p, p x = true := fun x => List.mem_takeWhile_imp
  generalize xs.takeWhile p = front at hparts hfront
  generalize xs.dropWhile p = back at hparts h ⊢
  subst hparts
  rw [partitionPoint_append hfront h, List.getElem?_append_right (Nat.le_refl _), Nat.sub_self,
    List.head?_eq_getElem?]

end Halving

/-! ### Spans in order -/

/-- Spans that are not empty, each behind the ones before it. -/
structure InOrder (spans : List Span) : Prop where
  nonempty : ∀ span ∈ spans, span.start < span.stop
  pairwise : spans.Pairwise (·.stop ≤ ·.start)

theorem inOrder_cons {span : Span} {spans : List Span} :
    InOrder (span :: spans) ↔
      span.start < span.stop ∧ (∀ later ∈ spans, span.stop ≤ later.start) ∧ InOrder spans := by
  constructor
  · rintro ⟨hnonempty, hpairwise⟩
    rw [List.forall_mem_cons] at hnonempty
    rw [List.pairwise_cons] at hpairwise
    exact ⟨hnonempty.1, hpairwise.1, hnonempty.2, hpairwise.2⟩
  · rintro ⟨hspan, hlater, hspans⟩
    exact ⟨List.forall_mem_cons.2 ⟨hspan, hspans.nonempty⟩,
      List.pairwise_cons.2 ⟨hlater, hspans.pairwise⟩⟩

/-- The spans that end up to an offset come first. -/
theorem InOrder.lt_stop {spans : List Span} (h : InOrder spans) (offset : Nat) :
    ∀ span ∈ spans.dropWhile (·.stop ≤ offset), offset < span.stop := by
  induction spans with
  | nil => simp
  | cons span spans ih =>
    obtain ⟨hspan, hlater, hspans⟩ := inOrder_cons.1 h
    by_cases hstop : span.stop ≤ offset
    · rw [List.dropWhile_cons_of_pos (by simpa using hstop)]
      exact ih hspans
    · rw [List.dropWhile_cons_of_neg (by simpa using hstop), List.forall_mem_cons]
      refine ⟨Nat.lt_of_not_le hstop, fun later hmem => ?_⟩
      have hle := hlater later hmem
      have hlt := hspans.nonempty later hmem
      omega

theorem InOrder.isOpaque_iff {spans : List Span} (h : InOrder spans) (offset : Nat) :
    isOpaque spans offset = true ↔ ∃ span ∈ spans, span.start ≤ offset ∧ offset < span.stop := by
  induction spans with
  | nil => simp [isOpaque]
  | cons span spans ih =>
    obtain ⟨-, hlater, hspans⟩ := inOrder_cons.1 h
    simp only [List.mem_cons, exists_eq_or_imp]
    by_cases hstop : span.stop ≤ offset
    · rw [isOpaque_cons_of_stop_le hstop, ih hspans, or_iff_right (by omega)]
    · rw [isOpaque_cons_of_lt_stop (Nat.lt_of_not_le hstop), decide_eq_true_eq, or_iff_left]
      · omega
      · rintro ⟨later, hmem, hle, -⟩
        have hbehind := hlater later hmem
        omega

/-! ### The search -/

/-- Whether the offset lies outside of the first span that does not end up to it. -/
def isLive (spans : List Span) (offset : Nat) : Bool :=
  match spans[partitionPoint (·.stop ≤ offset) spans]? with
  | none => true
  | some span => !span.contains offset

/-- The span that is found is the one that opaque places are known by. -/
theorem InOrder.isLive_eq {spans : List Span} (h : InOrder spans) (offset : Nat) :
    isLive spans offset = !isOpaque spans offset := by
  have hfound : spans[partitionPoint (·.stop ≤ offset) spans]? =
      (spans.dropWhile (·.stop ≤ offset)).head? :=
    getElem?_partitionPoint (by simpa using h.lt_stop offset)
  rw [isLive, hfound, isOpaque]
  cases spans.dropWhile (·.stop ≤ offset) <;> rfl

end StylesheetAssets.Import
