import StylesheetAssets.Proofs.Path.Pieces

/-!
Where a path leads: the names below the root, after every `..` has taken a name away.
-/
namespace StylesheetAssets.Path

theorem join_of_isAbsolute {p q : Path} (h : q.isAbsolute = true) : p.join q = q := by
  simp [join, h]

/-- The pieces of a joined path, up to pieces that mean nothing. -/
theorem pieces_join {p q : Path} (h : q.isAbsolute = false) :
    (p.text = "" ∧ (p.join q).pieces = q.pieces) ∨
      (∃ ps, p.pieces = ps ++ [[]] ∧ (p.join q).pieces = ps ++ q.pieces) ∨
      (p.join q).pieces = p.pieces ++ q.pieces := by
  unfold join
  rw [if_neg (by simp [h])]
  split_ifs with hlast
  · rcases List.eq_nil_or_concat p.text.toList with hp | ⟨s, c, hp⟩
    · left
      have htext : p.text = "" := String.toList_eq_nil_iff.1 hp
      exact ⟨htext, by simp [htext, pieces]⟩
    · have hc : c = '/' := by simpa [hp] using hlast
      refine .inr (.inl ⟨Text.splitOn '/' s, ?_, ?_⟩)
      · simp [pieces, hp, hc, Text.splitOn_append_cons, Text.splitOn]
      · simp [pieces, hp, hc, Text.splitOn_append_cons]
  · right
    right
    simp [pieces, Text.splitOn_append_cons]

/-- Joining lays the steps of a relative path behind those of the path it is joined to. -/
theorem body_join {p q : Path} (h : q.isAbsolute = false) :
    (p.join q).body = p.body ++ q.body := by
  have hempty : bodyComponents [[]] = [] := rfl
  rcases pieces_join (p := p) h with ⟨hp, hj⟩ | ⟨ps, hp, hj⟩ | hj
  · have hbody : p.body = [] := by simp [body, pieces, hp, Text.splitOn, hempty]
    rw [hbody, body, hj, List.nil_append, body]
  · simp [body, hj, hp, bodyComponents_append, hempty]
  · simp [body, hj, bodyComponents_append]

theorem isAbsolute_join {p q : Path} (h : q.isAbsolute = false) :
    (p.join q).isAbsolute = p.isAbsolute := by
  unfold join
  rw [if_neg (by simp [h])]
  cases hp : p.text.toList with
  | nil => simpa [isAbsolute, hp] using h
  | cons c s => split_ifs <;> simp [isAbsolute, hp]

/-! ### Names below the root -/

/-- One step from a place below the root. The names on the way to it stand innermost first. -/
def descend (names : List String) : Component → List String
  | .name s => s :: names
  | .parent => names.tail
  | _ => names

/-- The names on the way from the root to where a path leads, innermost first. -/
def trail (p : Path) : List String := p.body.foldl descend []

/-- The components of the place with the given names. -/
def place (names : List String) : List Component := .root :: names.reverse.map .name

theorem foldl_normalizeStep (names : List String) {cs : List Component}
    (h : ∀ c ∈ cs, c = .parent ∨ ∃ s, c = .name s) :
    cs.foldl normalizeStep (names.map .name ++ [.root]) =
      (cs.foldl descend names).map .name ++ [.root] := by
  induction cs generalizing names with
  | nil => rfl
  | cons c cs ih =>
    have hstep : normalizeStep (names.map .name ++ [.root]) c =
        (descend names c).map .name ++ [.root] := by
      rcases h c List.mem_cons_self with rfl | ⟨s, rfl⟩
      · cases names <;> rfl
      · rfl
    rw [List.foldl_cons, hstep, ih _ fun d hd => h d (List.mem_cons_of_mem c hd)]
    rfl

theorem normalComponents_of_isAbsolute {p : Path} (h : p.isAbsolute = true) :
    p.normalComponents = place p.trail := by
  have hfold := foldl_normalizeStep [] fun c (hc : c ∈ p.body) => mem_body hc
  simp only [List.map_nil, List.nil_append] at hfold
  simp [normalComponents, components_eq, h, place, trail, normalizeStep, hfold]

theorem normalize_of_isAbsolute {p : Path} (h : p.isAbsolute = true) :
    p.normalize = ofComponents (place p.trail) := by
  rw [normalize, normalComponents_of_isAbsolute h]

/-- The way to a relative path goes on from where the path before it led. -/
theorem trail_join {p q : Path} (h : q.isAbsolute = false) :
    (p.join q).trail = q.body.foldl descend p.trail := by
  simp [trail, body_join h]

/-- Whether a name can stand between separators as a step of its own. -/
def IsName (s : String) : Prop := s.toList ≠ [] ∧ s ≠ "." ∧ s ≠ ".." ∧ '/' ∉ s.toList

theorem isName_of_mem_body {p : Path} {s : String} (h : .name s ∈ p.body) : IsName s := by
  obtain ⟨piece, hmem, hs⟩ := List.mem_filterMap.1 h
  have hslash := not_mem_of_mem_pieces hmem
  unfold Component.ofPiece? at hs
  split_ifs at hs with hidle hparent
  · cases hs
  · cases hs
    rw [not_or] at hidle
    refine ⟨by simpa using hidle.1, fun h => hidle.2 ?_, fun h => hparent ?_, by simpa using hslash⟩
    · simpa using congrArg String.toList h
    · simpa using congrArg String.toList h

theorem mem_of_mem_foldl_descend {s : String} {names : List String} {cs : List Component}
    (h : s ∈ cs.foldl descend names) : s ∈ names ∨ .name s ∈ cs := by
  induction cs generalizing names with
  | nil => exact .inl h
  | cons c cs ih =>
    rcases ih h with hs | hs
    · cases c with
      | name t =>
        rcases List.mem_cons.1 hs with rfl | hs
        · exact .inr List.mem_cons_self
        · exact .inl hs
      | parent => exact .inl (List.mem_of_mem_tail hs)
      | root => exact .inl hs
      | here => exact .inl hs
    · exact .inr (List.mem_cons_of_mem c hs)

/-- The names on the way to where a path leads are names in the path. -/
theorem mem_body_of_mem_trail {p : Path} {s : String} (h : s ∈ p.trail) : .name s ∈ p.body :=
  (mem_of_mem_foldl_descend h).resolve_left List.not_mem_nil

theorem isName_of_mem_trail {p : Path} {s : String} (h : s ∈ p.trail) : IsName s :=
  isName_of_mem_body (mem_body_of_mem_trail h)

end StylesheetAssets.Path
