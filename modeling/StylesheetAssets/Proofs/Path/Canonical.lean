import StylesheetAssets.Proofs.Path.Relative

/-!
Normal forms of paths: an absolute one is the written form of the place that it leads to, and a
relative one goes up before it goes down.
-/
namespace StylesheetAssets.Path

/-- An absolute path in its normal form. -/
structure IsCanonical (p : Path) : Prop where
  absolute : p.isAbsolute = true
  normal : p.normalize = p

variable {p q : Path} {s : String}

theorem text_ne_of_isAbsolute (h : p.isAbsolute = true) : p.text ≠ "" := by
  intro hempty
  rw [isAbsolute, hempty] at h
  cases h

theorem IsCanonical.eq (h : p.IsCanonical) : p = ofComponents (place p.trail) := by
  rw [← normalize_of_isAbsolute h.absolute, h.normal]

theorem IsCanonical.components_eq (h : p.IsCanonical) : p.components = place p.trail := by
  rw [← components_normalize h.absolute, h.normal]

theorem isCanonical_ofComponents {names : List String} (h : ∀ s ∈ names, IsName s) :
    (ofComponents (place names)).IsCanonical := by
  have habs := isAbsolute_ofComponents_place h
  exact ⟨habs, by rw [normalize_of_isAbsolute habs, trail_ofComponents_place h]⟩

theorem isCanonical_normalize (h : p.isAbsolute = true) : p.normalize.IsCanonical :=
  ⟨isAbsolute_normalize h, normalize_normalize h⟩

theorem isCanonical_absolutize (p : Path) {base : Path} (h : base.isAbsolute = true) :
    (p.absolutize base).IsCanonical :=
  isCanonical_normalize (isAbsolute_join_of_isAbsolute p h)

theorem ofComponents_place_cons (s : String) (names : List String) :
    ofComponents (place (s :: names)) = (ofComponents (place names)).join ⟨s⟩ := by
  simp [ofComponents, place, Component.text]

/-- A name below a canonical path. -/
theorem IsCanonical.join (h : p.IsCanonical) (hs : IsName s) : (p.join ⟨s⟩).IsCanonical := by
  rw [h.eq, ← ofComponents_place_cons]
  refine isCanonical_ofComponents fun t ht => ?_
  rcases List.mem_cons.1 ht with rfl | ht
  · exact hs
  · exact isName_of_mem_trail ht

/-- Canonical paths are told apart by the places they lead to. -/
theorem IsCanonical.eq_of_trail_eq (hp : p.IsCanonical) (hq : q.IsCanonical)
    (h : p.trail = q.trail) : p = q := by
  rw [hp.eq, hq.eq, h]

/-! ### Relative paths -/

/-- Steps up, then names. -/
def UpThenDown (cs : List Component) : Prop :=
  ∃ (up : Nat) (down : List String), cs = List.replicate up Component.parent ++ down.map .name

theorem UpThenDown.tail {c : Component} {cs : List Component} (h : UpThenDown (c :: cs)) :
    UpThenDown cs := by
  obtain ⟨up, down, heq⟩ := h
  cases up with
  | zero =>
    cases down with
    | nil => cases heq
    | cons s down => exact ⟨0, down, (List.cons.inj heq).2⟩
  | succ up => exact ⟨up, down, (List.cons.inj heq).2⟩

/-- Behind a name there are only names. -/
theorem UpThenDown.names {cs : List Component} (h : UpThenDown (.name s :: cs)) :
    ∃ down : List String, cs = down.map .name := by
  obtain ⟨up, down, heq⟩ := h
  cases up with
  | zero =>
    cases down with
    | nil => cases heq
    | cons t down => exact ⟨down, (List.cons.inj heq).2⟩
  | succ up => cases heq

theorem normalizeStep_replicate (up : Nat) :
    normalizeStep (List.replicate up .parent) .parent = List.replicate (up + 1) .parent := by
  cases up <;> rfl

theorem foldl_normalizeStep_relative (up : Nat) (names : List String) {cs : List Component}
    (h : ∀ c ∈ cs, c ≠ .root) :
    ∃ up' names', cs.foldl normalizeStep (names.map .name ++ List.replicate up .parent) =
        List.map Component.name names' ++ List.replicate up' .parent ∧
      ∀ s ∈ names', s ∈ names ∨ .name s ∈ cs := by
  induction cs generalizing up names with
  | nil => exact ⟨up, names, rfl, fun s hs => .inl hs⟩
  | cons c cs ih =>
    have hcs : ∀ d ∈ cs, d ≠ .root := fun d hd => h d (List.mem_cons_of_mem c hd)
    rw [List.foldl_cons]
    cases c with
    | root => exact absurd rfl (h _ List.mem_cons_self)
    | here =>
      obtain ⟨up', names', heq, hmem⟩ := ih up names hcs
      exact ⟨up', names', heq, fun s hs => (hmem s hs).imp_right (List.mem_cons_of_mem _)⟩
    | name t =>
      obtain ⟨up', names', heq, hmem⟩ := ih up (t :: names) hcs
      refine ⟨up', names', heq, fun s hs => ?_⟩
      rcases hmem s hs with hs | hs
      · rcases List.mem_cons.1 hs with rfl | hs
        · exact .inr List.mem_cons_self
        · exact .inl hs
      · exact .inr (List.mem_cons_of_mem _ hs)
    | parent =>
      cases names with
      | cons t names =>
        obtain ⟨up', names', heq, hmem⟩ := ih up names hcs
        refine ⟨up', names', heq, fun s hs => ?_⟩
        exact (hmem s hs).imp (List.mem_cons_of_mem t) (List.mem_cons_of_mem _)
      | nil =>
        obtain ⟨up', names', heq, hmem⟩ := ih (up + 1) [] hcs
        refine ⟨up', names', ?_, fun s hs => (hmem s hs).imp_right (List.mem_cons_of_mem _)⟩
        rw [List.map_nil, List.nil_append, normalizeStep_replicate]
        exact heq

theorem normalComponents_of_relative (h : p.isAbsolute = false) :
    ∃ (up : Nat) (down : List String),
      p.normalComponents = List.replicate up Component.parent ++ down.map .name ∧
        ∀ s ∈ down, IsName s := by
  have hroot : ∀ c ∈ p.components, c ≠ .root := by
    rintro c hc rfl
    exact absurd (mem_components_root.1 hc) (by simp [h])
  obtain ⟨up, names, hfold, hmem⟩ := foldl_normalizeStep_relative 0 [] hroot
  refine ⟨up, names.reverse, ?_, fun s hs => isName_of_mem_body (p := p) ?_⟩
  · simp only [List.map_nil, List.replicate_zero, List.append_nil] at hfold
    rw [normalComponents, hfold, List.reverse_append, List.reverse_replicate, List.map_reverse]
  · rw [body_eq_filter, List.mem_filter]
    exact ⟨(hmem s (List.mem_reverse.1 hs)).resolve_left (by simp), by simp⟩

theorem isStep_of_mem_normalComponents (h : p.isAbsolute = false) {c : Component}
    (hc : c ∈ p.normalComponents) : IsStep c := by
  obtain ⟨up, down, heq, hdown⟩ := normalComponents_of_relative h
  rw [heq] at hc
  exact isStep_of_mem hdown hc

/-- The normal form of a relative path is relative, and has its normal components for steps. -/
theorem body_normalize_of_relative (h : p.isAbsolute = false) :
    p.normalize.isAbsolute = false ∧ p.normalize.body = p.normalComponents :=
  body_ofComponents fun _ => isStep_of_mem_normalComponents h

theorem components_normalize_of_relative (h : p.isAbsolute = false) :
    p.normalize.components = p.normalComponents :=
  components_ofComponents fun _ => isStep_of_mem_normalComponents h

/-- In a normal form all steps up come first. -/
theorem upThenDown_normalize (p : Path) : UpThenDown p.normalize.body := by
  by_cases habs : p.isAbsolute = true
  · have hnames : ∀ s ∈ p.trail.reverse, IsName s := fun s hs =>
      isName_of_mem_trail (List.mem_reverse.1 hs)
    refine ⟨0, p.trail.reverse, ?_⟩
    rw [normalize_of_isAbsolute habs, ofComponents_place fun _ => isName_of_mem_trail,
      body_rooted hnames]
    rfl
  · have hrel : p.isAbsolute = false := by simpa using habs
    obtain ⟨up, down, heq, -⟩ := normalComponents_of_relative hrel
    exact ⟨up, down, (body_normalize_of_relative hrel).2.trans heq⟩

end StylesheetAssets.Path
