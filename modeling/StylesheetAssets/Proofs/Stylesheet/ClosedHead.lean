import StylesheetAssets.Proofs.Stylesheet.Composition
import StylesheetAssets.Proofs.Text.Trimming

/-!
Heads that end where their text ends: what is written behind them is read as what it is.
-/
namespace StylesheetAssets.Stylesheet

namespace HeadState

/-- The state behind a text. -/
def after (s : HeadState) (cs : List Char) : HeadState := cs.foldl step s

/-- No string, comment, escape or parenthesis is open. -/
structure AtRest (s : HeadState) : Prop where
  mode : s.mode = .plain ∨ s.mode = .slash
  depth : s.depth = 0

instance (s : HeadState) : Decidable s.AtRest :=
  decidable_of_iff ((s.mode = .plain ∨ s.mode = .slash) ∧ s.depth = 0)
    ⟨fun h => ⟨h.1, h.2⟩, fun h => ⟨h.mode, h.depth⟩⟩

theorem after_append (s : HeadState) (cs ds : List Char) :
    s.after (cs ++ ds) = (s.after cs).after ds := List.foldl_append

theorem after_cons (s : HeadState) (c : Char) (cs : List Char) :
    s.after (c :: cs) = (s.step c).after cs := rfl

theorem AtRest.stops_iff {s : HeadState} (h : s.AtRest) (c : Char) :
    s.stops c = true ↔ c = '{' ∨ c = ';' ∨ c = '}' := by
  rcases h.mode with hm | hm <;> simp [stops, hm, h.depth, or_assoc]

theorem atRest_of_stops {s : HeadState} {c : Char} (h : s.stops c = true) : s.AtRest := by
  simp only [stops, Bool.and_eq_true, Bool.or_eq_true, decide_eq_true_eq] at h
  exact ⟨h.1.1, h.1.2⟩

end HeadState

open HeadState

/-- A text that a head can be read on to its end without meeting one. -/
theorem splitHead_append_of_passes {s : HeadState} {cs : List Char} (h : (splitHead s cs).2 = [])
    (rest : List Char) :
    splitHead s (cs ++ rest) =
      (cs ++ (splitHead (s.after cs) rest).1, (splitHead (s.after cs) rest).2) := by
  induction cs generalizing s with
  | nil => rfl
  | cons c cs ih =>
    by_cases hstop : s.stops c = true
    · simp [splitHead, hstop] at h
    · simp only [splitHead, if_neg hstop] at h
      rw [List.cons_append, splitHead, if_neg hstop, ih h]
      rfl

theorem passes_append {s : HeadState} {cs ds : List Char} :
    (splitHead s (cs ++ ds)).2 = [] ↔
      (splitHead s cs).2 = [] ∧ (splitHead (s.after cs) ds).2 = [] := by
  induction cs generalizing s with
  | nil => simp [splitHead, after]
  | cons c cs ih =>
    rw [List.cons_append]
    by_cases hstop : s.stops c = true
    · simp [splitHead, hstop]
    · simp only [splitHead, if_neg hstop, ih]
      rfl

/-- What has been split off as a head has no end inside. -/
theorem passes_splitHead (s : HeadState) (cs : List Char) :
    (splitHead s (splitHead s cs).1).2 = [] := by
  induction cs generalizing s with
  | nil => rfl
  | cons c cs ih =>
    by_cases hstop : s.stops c = true
    · simp [splitHead, hstop]
    · simp [splitHead, hstop, ih]

theorem scanHead_of_passes {cs : List Char} (h : (splitHead {} cs).2 = []) :
    scanHead cs = (.statement (Text.trim cs), []) := by
  have hhead : (splitHead {} cs).1 = cs := by
    simpa only [h, List.append_nil] using splitHead_append {} cs
  have hsplit : splitHead {} cs = (cs, []) := Prod.ext hhead h
  rw [scanHead, hsplit]

/-- A text that is read as a part of one head from its start to its end, and leaves nothing open. -/
structure IsClosed (text : List Char) : Prop where
  passes : (splitHead {} text).2 = []
  ended : (HeadState.after {} text).AtRest

instance (text : List Char) : Decidable (IsClosed text) :=
  decidable_of_iff ((splitHead {} text).2 = [] ∧ (HeadState.after {} text).AtRest)
    ⟨fun h => ⟨h.1, h.2⟩, fun h => ⟨h.passes, h.ended⟩⟩

theorem isClosed_nil : IsClosed [] := ⟨rfl, ⟨.inl rfl, rfl⟩⟩

/-- A closed text in front of what ends a head is the head. -/
theorem IsClosed.splitHead_append {text : List Char} (h : IsClosed text) {c : Char}
    (hc : c = '{' ∨ c = ';' ∨ c = '}') (rest : List Char) :
    splitHead {} (text ++ c :: rest) = (text, c :: rest) := by
  have hstop : (HeadState.after {} text).stops c = true := (h.ended.stops_iff c).2 hc
  rw [splitHead_append_of_passes h.passes, splitHead, if_pos hstop, List.append_nil]

theorem IsClosed.scanHead_semicolon {text : List Char} (h : IsClosed text) (rest : List Char) :
    scanHead (text ++ ';' :: rest) = (.statement (Text.trim text), rest) := by
  rw [scanHead, h.splitHead_append (.inr (.inl rfl))]
  rfl

theorem IsClosed.scanHead_brace {text : List Char} (h : IsClosed text) (rest : List Char) :
    scanHead (text ++ '{' :: rest) = (.opening (Text.trim text), rest) := by
  rw [scanHead, h.splitHead_append (.inl rfl)]
  rfl

end StylesheetAssets.Stylesheet
