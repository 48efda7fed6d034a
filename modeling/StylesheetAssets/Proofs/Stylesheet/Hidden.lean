import StylesheetAssets.Proofs.Stylesheet.Gaps

/-!
Places in comments and strings, by the state of the scan there.
-/
namespace StylesheetAssets.Stylesheet.HeadState

/-- In a comment or a string. -/
def isHidden (s : HeadState) : Bool :=
  match s.mode with
  | .string _ | .stringEscape _ | .comment | .star => true
  | .plain | .escape | .slash => false

/-- In a string that ends at the quote `q`. -/
def InString (s : HeadState) (q : Char) : Prop := s.mode = .string q ∨ s.mode = .stringEscape q

variable {s : HeadState} {c q : Char}

theorem isHidden_of_plain (hs : s.mode = .plain) : s.isHidden = false := by
  rw [isHidden, hs]

theorem InString.isHidden (hs : s.InString q) : s.isHidden = true := by
  rcases hs with hs | hs <;> rw [HeadState.isHidden, hs]

theorem AtRest.isHidden (hs : s.AtRest) : s.isHidden = false := by
  rcases hs.mode with hmode | hmode <;> rw [HeadState.isHidden, hmode]

theorem step_of_plain (hs : s.mode = .plain) (c : Char) : s.step c = stepPlain s.depth c := by
  rw [step, hs]

theorem mode_step_quote (hs : s.mode = .plain) (hq : q = '"' ∨ q = '\'') :
    (s.step q).mode = .string q := by
  rw [step_of_plain hs, stepPlain, if_pos hq]

theorem sound_of_isHidden (hs : s.isHidden = false) : s.Sound := by
  rintro q (hq | hq) <;> rw [isHidden, hq] at hs <;> cases hs

/-- Outside of comments and strings nothing is left open behind a gap. -/
theorem mode_after_gap (hs : s.isHidden = false) {gap : List Char} (hgap : IsGap gap) :
    (s.after gap).mode = .plain := by
  rw [(sound_of_isHidden hs).after_gap hgap]
  obtain ⟨mode, depth⟩ := s
  cases mode with
  | plain | escape | slash => rfl
  | string | stringEscape | comment | star => cases hs

theorem mode_after_fillers (hs : s.mode = .plain) {fillers : List Char}
    (h : ∀ c ∈ fillers, isFiller c = true) : (s.after fillers).mode = .plain := by
  cases fillers with
  | nil => exact hs
  | cons c fillers => exact mode_after_gap (isHidden_of_plain hs) ⟨by simp, h⟩

/-- A string goes on over every text without its quote. -/
theorem InString.after (hs : s.InString q) {cs : List Char} (h : ∀ c ∈ cs, c ≠ q) :
    (s.after cs).InString q := by
  induction cs generalizing s with
  | nil => exact hs
  | cons c cs ih =>
    obtain ⟨hc, hcs⟩ := List.forall_mem_cons.1 h
    refine ih ?_ hcs
    rcases hs with hs | hs
    · by_cases hescape : c = '\\'
      · exact .inr (by simp [step, hs, hescape])
      · exact .inl (by simp [step, hs, hescape, hc])
    · exact .inl (by simp [step, hs])

end StylesheetAssets.Stylesheet.HeadState
