import Mathlib.Data.List.DropRight
import StylesheetAssets.Path.Lexical

/-!
The pieces of a path between its separators, and what is left of them in a joined path and in the
directory of a path.
-/
namespace StylesheetAssets

namespace Text

theorem splitOn_eq_splitOn (c : Char) (s : List Char) : splitOn c s = s.splitOn c := by
  induction s with
  | nil => rfl
  | cons d s ih =>
    obtain ⟨piece, pieces, hs⟩ := List.exists_cons_of_ne_nil (List.splitOn_ne_nil c s)
    rw [List.splitOn_cons_eq_if_modifyHead, splitOn, ih, hs]
    by_cases h : d = c <;> simp [h]

theorem joinWith_eq_intercalate (separator : List Char) (ps : List (List Char)) :
    joinWith separator ps = separator.intercalate ps := by
  fun_induction joinWith separator ps with
  | case1 => rfl
  | case2 piece => simp
  | case3 piece rest hrest ih =>
    obtain ⟨q, qs, rfl⟩ := List.exists_cons_of_ne_nil hrest
    simp [ih, List.intercalate]

theorem not_mem_of_mem_splitOn {c : Char} {s piece : List Char} (h : piece ∈ splitOn c s) :
    c ∉ piece := by
  induction s generalizing piece with
  | nil => simp_all [splitOn]
  | cons d s ih =>
    obtain ⟨first, rest, hs⟩ := List.exists_cons_of_ne_nil (splitOn_ne_nil c s)
    simp only [splitOn, hs] at h ih
    by_cases hd : d = c
    · simp only [hd, ↓reduceIte, List.mem_cons] at h
      rcases h with rfl | h
      · simp
      · exact ih (List.mem_cons.2 h)
    · simp only [hd, ↓reduceIte, List.mem_cons] at h
      rcases h with rfl | h
      · simp [Ne.symm hd, ih List.mem_cons_self]
      · exact ih (List.mem_cons_of_mem _ h)

theorem splitOn_append_cons (c : Char) (s t : List Char) :
    splitOn c (s ++ c :: t) = splitOn c s ++ splitOn c t := by
  simp only [splitOn_eq_splitOn, List.splitOn_append_cons_self]

/-- Splitting undoes joining. -/
theorem splitOn_joinWith {c : Char} {ps : List (List Char)} (hne : ps ≠ [])
    (h : ∀ p ∈ ps, c ∉ p) : splitOn c (joinWith [c] ps) = ps := by
  rw [splitOn_eq_splitOn, joinWith_eq_intercalate, List.splitOn_intercalate c h hne]

end Text

namespace Path

/-- The steps of a path below its start. -/
def body (p : Path) : List Component := bodyComponents p.pieces

/-- A piece that means nothing. -/
def IsIdle (piece : List Char) : Prop := piece = [] ∨ piece = ['.']

theorem ofPiece?_eq_none_iff {piece : List Char} :
    Component.ofPiece? piece = none ↔ IsIdle piece := by
  unfold Component.ofPiece? IsIdle
  split_ifs with h h' <;> simp [h]

theorem bodyComponents_append (ps qs : List (List Char)) :
    bodyComponents (ps ++ qs) = bodyComponents ps ++ bodyComponents qs :=
  List.filterMap_append

theorem bodyComponents_cons_of_isIdle {p : List Char} (ps : List (List Char)) (h : IsIdle p) :
    bodyComponents (p :: ps) = bodyComponents ps :=
  List.filterMap_cons_none (ofPiece?_eq_none_iff.2 h)

/-- The start of a path, then its steps. -/
theorem components_eq (p : Path) :
    p.components = (if p.isAbsolute then [.root]
      else if p.pieces.head? = some ['.'] then [.here] else []) ++ p.body := by
  unfold components body
  split_ifs <;> simp

theorem mem_body {p : Path} {c : Component} (h : c ∈ p.body) :
    c = .parent ∨ ∃ s, c = .name s := by
  obtain ⟨piece, -, hc⟩ := List.mem_filterMap.1 h
  unfold Component.ofPiece? at hc
  split_ifs at hc
  · exact .inl (Option.some.inj hc).symm
  · exact .inr ⟨_, (Option.some.inj hc).symm⟩

/-- The components that are steps. -/
theorem body_eq_filter (p : Path) :
    p.body = p.components.filter (fun c => c ≠ .root ∧ c ≠ .here) := by
  have hbody : p.body.filter (fun c => c ≠ .root ∧ c ≠ .here) = p.body := by
    refine List.filter_eq_self.2 fun c hc => ?_
    rcases mem_body hc with rfl | ⟨s, rfl⟩ <;> rfl
  rw [components_eq, List.filter_append, hbody]
  split_ifs <;> rfl

theorem mem_components_root {p : Path} : Component.root ∈ p.components ↔ p.isAbsolute = true := by
  have hbody : Component.root ∉ p.body := fun h => by
    rcases mem_body h with h | ⟨s, h⟩ <;> cases h
  rw [components_eq, List.mem_append]
  split_ifs with habs hdot <;> simp [habs, hbody]

/-- Two spellings of one path have the same steps. -/
theorem body_eq_of_same {p q : Path} (h : p.same q = true) : p.body = q.body := by
  rw [body_eq_filter, body_eq_filter, of_decide_eq_true h]

theorem isAbsolute_eq_of_same {p q : Path} (h : p.same q = true) :
    p.isAbsolute = q.isAbsolute := by
  rw [Bool.eq_iff_iff, ← mem_components_root, ← mem_components_root, of_decide_eq_true h]

/-- Whether a path is absolute can be seen from its pieces. -/
theorem isAbsolute_iff {p : Path} :
    p.isAbsolute = true ↔ ∃ piece pieces, p.pieces = [] :: piece :: pieces := by
  unfold isAbsolute pieces
  cases p.text.toList with
  | nil => simp [Text.splitOn]
  | cons c s =>
    obtain ⟨first, rest, hs⟩ := List.exists_cons_of_ne_nil (Text.splitOn_ne_nil '/' s)
    simp only [Text.splitOn, hs, List.head?_cons, decide_eq_true_eq, Option.some.injEq]
    by_cases h : c = '/'
    · simp [h]
    · simp [h]

theorem pieces_ne_nil (p : Path) : p.pieces ≠ [] := Text.splitOn_ne_nil _ _

theorem not_mem_of_mem_pieces {p : Path} {piece : List Char} (h : piece ∈ p.pieces) :
    '/' ∉ piece :=
  Text.not_mem_of_mem_splitOn h

theorem pieces_joinWith {ps : List (List Char)} (hne : ps ≠ []) (h : ∀ p ∈ ps, '/' ∉ p) :
    pieces ⟨String.ofList (Text.joinWith ['/'] ps)⟩ = ps := by
  rw [pieces, String.toList_ofList, Text.splitOn_joinWith hne h]

theorem dropIdle_eq_rdropWhile (ps : List (List Char)) :
    dropIdle ps = ps.rdropWhile (fun piece => piece = [] ∨ piece = ['.']) := rfl

theorem dropIdle_isPrefix (ps : List (List Char)) : dropIdle ps <+: ps := by
  rw [dropIdle_eq_rdropWhile]
  exact List.rdropWhile_prefix _ _

theorem dropIdle_concat {p : List Char} (ps : List (List Char)) (h : ¬IsIdle p) :
    dropIdle (ps ++ [p]) = ps ++ [p] := by
  rw [dropIdle_eq_rdropWhile]
  exact List.rdropWhile_concat_neg _ _ _ (by simpa [IsIdle] using h)

theorem not_isIdle_of_dropIdle {ps qs : List (List Char)} {q : List Char}
    (h : dropIdle ps = qs ++ [q]) : ¬IsIdle q := by
  have hne : ps.rdropWhile (fun piece => piece = [] ∨ piece = ['.']) ≠ [] := by
    rw [← dropIdle_eq_rdropWhile, h]
    simp
  have hlast := List.rdropWhile_last_not _ _ hne
  simp only [← dropIdle_eq_rdropWhile, h, List.getLast_append_singleton] at hlast
  simpa [IsIdle] using hlast

theorem bodyComponents_dropIdle (ps : List (List Char)) :
    bodyComponents (dropIdle ps) = bodyComponents ps := by
  induction ps using List.reverseRecOn with
  | nil => rfl
  | append_singleton ps p ih =>
    by_cases h : IsIdle p
    · have hdrop : dropIdle (ps ++ [p]) = dropIdle ps := by
        simp only [dropIdle_eq_rdropWhile]
        exact List.rdropWhile_concat_pos _ _ _ (by simpa [IsIdle] using h)
      rw [hdrop, ih, bodyComponents_append, bodyComponents_cons_of_isIdle _ h]
      simp [bodyComponents]
    · rw [dropIdle_concat ps h]

end Path

end StylesheetAssets
