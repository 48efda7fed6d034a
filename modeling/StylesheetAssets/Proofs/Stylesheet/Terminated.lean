import StylesheetAssets.Proofs.Stylesheet.Gaps
import StylesheetAssets.Proofs.Stylesheet.RoundTrip

/-!
Texts that leave nothing open, and the tokens they are made of.
-/
namespace StylesheetAssets.Stylesheet

open HeadState

/-- No string, comment or parenthesis is open at the end of the text, and no backslash is last. -/
def Terminated (source : List Char) : Prop := (HeadState.after {} source).AtRest

instance (source : List Char) : Decidable (Terminated source) :=
  inferInstanceAs (Decidable (HeadState.AtRest _))

/-- What the tokens of terminated texts hold: a head is what trimming leaves of a closed text. -/
def Token.IsTerminated : Token → Prop
  | .comment text => IsCommentText (String.ofList text)
  | .opening head | .statement head => ∃ raw, IsClosed raw ∧ head = Text.trim raw
  | .closing => True

/-- Behind the end of a comment the scan stands where it stood in front of it. -/
theorem after_splitComment {cs rest : List Char} (h : (splitComment cs).2 = some rest) :
    HeadState.after ⟨.comment, 0⟩ cs = HeadState.after {} rest := by
  fun_induction splitComment cs with
  | case1 rest' =>
    cases h
    rfl
  | case2 => cases h
  | case3 c cs hne body after hr ih =>
    rw [hr] at ih
    rw [← ih h, after_cons]
    by_cases hc : c = '*'
    · subst hc
      cases cs with
      | nil => cases hr; cases h
      | cons d cs =>
        have hd : d ≠ '/' := fun hd => hne cs rfl (by rw [hd])
        rw [after_cons, after_cons]
        congr 1
        exact if_neg hd
    · have hstep : HeadState.step ⟨.comment, 0⟩ c = ⟨.comment, 0⟩ := if_neg hc
      rw [hstep]

theorem stops_of_splitHead {s : HeadState} {cs more : List Char} {d : Char}
    (h : (splitHead s cs).2 = d :: more) : (s.after (splitHead s cs).1).stops d = true := by
  induction cs generalizing s with
  | nil => cases h
  | cons c cs ih =>
    by_cases hstop : s.stops c = true
    · simp only [splitHead, if_pos hstop] at h ⊢
      cases h
      exact hstop
    · simp only [splitHead, if_neg hstop] at h ⊢
      exact ih h

theorem step_of_stops {s : HeadState} {c : Char} (h : s.stops c = true) : s.step c = {} := by
  have hrest := atRest_of_stops h
  have hc := (hrest.stops_iff c).1 h
  obtain ⟨mode, depth⟩ := s
  obtain ⟨rfl | rfl, rfl⟩ := hrest <;> rcases hc with rfl | rfl | rfl <;> rfl

theorem Terminated.isClosed_head {cs : List Char} (h : Terminated cs) :
    IsClosed (splitHead {} cs).1 := by
  refine ⟨passes_splitHead {} cs, ?_⟩
  cases hrest : (splitHead {} cs).2 with
  | nil =>
    have hcs := splitHead_append {} cs
    rw [hrest, List.append_nil] at hcs
    rw [hcs]
    exact h
  | cons d more => exact atRest_of_stops (stops_of_splitHead hrest)

theorem Terminated.behind_head {cs : List Char} (h : Terminated cs) :
    Terminated (splitHead {} cs).2 := by
  cases hrest : (splitHead {} cs).2 with
  | nil => exact isClosed_nil.ended
  | cons d more =>
    have hstops := stops_of_splitHead hrest
    have hstart : HeadState.stops {} d = true :=
      (isClosed_nil.ended.stops_iff d).2 (((atRest_of_stops hstops).stops_iff d).1 hstops)
    have hcs := splitHead_append {} cs
    unfold Terminated at h ⊢
    rw [← hcs, hrest, after_append, after_cons, step_of_stops hstops] at h
    rwa [after_cons, step_of_stops hstart]

theorem Terminated.scanHead {cs : List Char} (h : Terminated cs) :
    (scanHead cs).1.IsTerminated ∧ Terminated (scanHead cs).2 := by
  have hclosed := h.isClosed_head
  have hbehind := h.behind_head
  unfold Stylesheet.scanHead
  cases hsplit : splitHead {} cs with
  | mk raw tail =>
    rw [hsplit] at hclosed hbehind
    dsimp only
    split <;> exact ⟨⟨raw, hclosed, rfl⟩, hbehind⟩

theorem isCommentText_trim (cs : List Char) :
    IsCommentText (String.ofList (Text.trim (splitComment cs).1)) := by
  constructor
  · rw [String.toList_ofList]
    exact Text.trimBy_trimBy _ _
  · rw [String.toList_ofList]
    obtain ⟨front, back, hbody, -, -⟩ := Text.exists_pad Text.isBlank (splitComment cs).1
    exact fun hend => (splitComment_spec cs).2 (hend.trans ⟨front, back, hbody.symm⟩)

/-- What is skipped between nodes leaves the state as it is. -/
theorem step_skipped {c : Char} (hc : Text.isAsciiBlank c ∨ c = ';') :
    HeadState.step {} c = {} := by
  rcases hc with hblank | rfl
  · exact (sound_after []).step_filler (isFiller_of_isBlank (Text.isBlank_of_isAsciiBlank hblank))
  · rfl

theorem Terminated.skip {c : Char} {rest : List Char} (h : Terminated (c :: rest))
    (hc : Text.isAsciiBlank c ∨ c = ';') : Terminated rest := by
  unfold Terminated at h
  rwa [after_cons, step_skipped hc] at h

/-- The tokens of a terminated text are terminated. -/
theorem Terminated.scan {source : List Char} (h : Terminated source) :
    ∀ token ∈ Token.scan source, token.IsTerminated := by
  fun_induction Token.scan source with
  | case1 => simp
  | case2 rest body behind hsplit _ ih =>
    have hbehind : Terminated behind := by
      unfold Terminated
      rw [← after_splitComment (by rw [hsplit])]
      exact h
    have htext := isCommentText_trim rest
    rw [hsplit] at htext
    exact List.forall_mem_cons.2 ⟨htext, ih hbehind⟩
  | case3 rest body hsplit =>
    have htext := isCommentText_trim rest
    rw [hsplit] at htext
    exact List.forall_mem_cons.2 ⟨htext, by simp⟩
  | case4 c rest _ hskipped ih => exact ih (h.skip (by simpa using hskipped))
  | case5 rest _ _ ih => exact List.forall_mem_cons.2 ⟨trivial, ih h⟩
  | case6 c rest _ _ _ _ ih => exact List.forall_mem_cons.2 ⟨h.scanHead.1, ih h.scanHead.2⟩

end StylesheetAssets.Stylesheet
