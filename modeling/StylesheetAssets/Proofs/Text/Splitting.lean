import Mathlib.Data.List.TakeWhile
import StylesheetAssets.Text

/-!
Texts cut at the first character of a kind.
-/
namespace StylesheetAssets.Text

theorem splitAt_eq {p : Char → Bool} {s t : List Char} (hs : ∀ c ∈ s, p c = false)
    (ht : ∀ c, t.head? = some c → p c = true) : splitAt p (s ++ t) = (s, t) := by
  have hs' : ∀ c ∈ s, (!p c) = true := fun c hc => by rw [hs c hc]; rfl
  unfold splitAt
  rw [List.takeWhile_append_of_pos hs', List.dropWhile_append_of_pos hs']
  cases t with
  | nil => simp
  | cons c t => simp [ht c rfl]

theorem of_head?_splitAt {p : Char → Bool} {s : List Char} {c : Char}
    (h : (splitAt p s).2.head? = some c) : p c = true := by
  have hhead := List.head?_dropWhile_not (!p ·) s
  have hrest : (s.dropWhile (!p ·)).head? = some c := h
  rw [hrest] at hhead
  simpa using hhead

theorem exists_splitAt (p : Char → Bool) (s : List Char) :
    ∃ front rest, s = front ++ rest ∧ (∀ c ∈ front, p c = false) ∧
      ∀ c, rest.head? = some c → p c = true := by
  refine ⟨(splitAt p s).1, (splitAt p s).2, (splitAt_append p s).symm, fun c hc => ?_,
    fun c => of_head?_splitAt⟩
  simpa using List.mem_takeWhile_imp hc

end StylesheetAssets.Text
