import StylesheetAssets.Proofs.Path.Canonical

/-!
Lexical resolution in stages: it does not matter which of the paths are brought into normal form
first, nor whether two relative paths are followed at once or one after the other.
-/
namespace StylesheetAssets.Path

variable {p q base : Path}

/-! ### Normal forms of normal forms -/

/-- What is in normal form already is kept. -/
theorem foldl_normalizeStep_upThenDown (up : Nat) (down : List String) :
    (List.replicate up Component.parent ++ down.map Component.name).foldl normalizeStep [] =
      (List.replicate up Component.parent ++ down.map Component.name).reverse := by
  have hup : (List.replicate up Component.parent).foldl normalizeStep [] =
      List.replicate up .parent := by
    induction up with
    | zero => rfl
    | succ up ih =>
      rw [List.replicate_succ', List.foldl_append, ih, ← List.replicate_succ']
      exact normalizeStep_replicate up
  have hdown (stack : List Component) : (down.map Component.name).foldl normalizeStep stack =
      (down.map Component.name).reverse ++ stack := by
    induction down generalizing stack with
    | nil => rfl
    | cons s down ih =>
      rw [List.map_cons, List.foldl_cons, ih, List.reverse_cons, List.append_assoc]
      rfl
  rw [List.foldl_append, hup, hdown, List.reverse_append, List.reverse_replicate]

theorem normalize_idem (p : Path) : p.normalize.normalize = p.normalize := by
  by_cases habs : p.isAbsolute = true
  · exact normalize_normalize habs
  · have hrel : p.isAbsolute = false := by simpa using habs
    obtain ⟨up, down, heq, -⟩ := normalComponents_of_relative hrel
    have hkept : p.normalize.normalComponents = p.normalComponents := by
      rw [normalComponents, components_normalize_of_relative hrel, heq,
        foldl_normalizeStep_upThenDown, List.reverse_reverse]
    rw [normalize, hkept, normalize]

/-- A canonical path has neither `.` nor `..` between its separators. -/
theorem IsCanonical.not_mem_pieces (h : p.IsCanonical) :
    ['.'] ∉ p.pieces ∧ ['.', '.'] ∉ p.pieces := by
  have hnames : ∀ s ∈ p.trail.reverse, IsName s := fun s hs =>
    isName_of_mem_trail (List.mem_reverse.1 hs)
  rw [h.eq, ofComponents_place fun _ => isName_of_mem_trail]
  generalize p.trail.reverse = names at hnames
  cases names with
  | nil => decide
  | cons s names =>
    rw [pieces_rooted (by simp) fun piece => not_mem_of_mem_map hnames, List.mem_cons,
      List.mem_map, List.mem_cons, List.mem_map]
    constructor
    · rintro (hroot | ⟨t, ht, hdot⟩)
      · cases hroot
      · exact (hnames t ht).not_isIdle (.inr hdot)
    · rintro (hroot | ⟨t, ht, hdots⟩)
      · cases hroot
      · exact (hnames t ht).2.2.1 (String.toList_inj.1 hdots)

/-! ### Normal forms on the way -/

theorem root_not_mem_normalizeStep {stack : List Component} {c : Component}
    (h : .root ∉ stack) (hc : c ≠ .root) : .root ∉ normalizeStep stack c := by
  cases c with
  | root => exact absurd rfl hc
  | here => exact h
  | name s => simpa [normalizeStep] using h
  | parent =>
    cases stack with
    | nil => simp [normalizeStep]
    | cons top rest => cases top <;> simp_all [normalizeStep]

/-- The components kept on the stack lead where the component taken up would lead behind those that
were there: a `..` undoes the name that it takes away. -/
theorem foldl_descend_normalizeStep {stack : List Component} (h : .root ∉ stack) (c : Component)
    (names : List String) :
    (normalizeStep stack c).reverse.foldl descend names =
      descend (stack.reverse.foldl descend names) c := by
  cases c with
  | root => simp [normalizeStep]
  | here => rfl
  | name s => simp [normalizeStep]
  | parent =>
    cases stack with
    | nil => rfl
    | cons top rest =>
      cases top with
      | root => exact absurd List.mem_cons_self h
      | here => simp [normalizeStep]
      | parent => simp [normalizeStep]
      | name s => simp [normalizeStep, descend]

/-- A relative path leads to one place in either form, wherever it starts. -/
theorem foldl_descend_normalComponents (h : p.isAbsolute = false) (names : List String) :
    p.normalComponents.foldl descend names = p.body.foldl descend names := by
  have hfold {stack cs : List Component} (hstack : .root ∉ stack) (hcs : .root ∉ cs) :
      (cs.foldl normalizeStep stack).reverse.foldl descend names =
        cs.foldl descend (stack.reverse.foldl descend names) := by
    induction cs generalizing stack with
    | nil => rfl
    | cons c cs ih =>
      obtain ⟨hc, hcs⟩ := not_or.1 (mt List.mem_cons.2 hcs)
      rw [List.foldl_cons, List.foldl_cons, ih (root_not_mem_normalizeStep hstack (Ne.symm hc)) hcs,
        foldl_descend_normalizeStep hstack]
  have hroot : .root ∉ p.components := fun hmem => by
    simp [mem_components_root.1 hmem] at h
  rw [normalComponents, hfold List.not_mem_nil hroot, components_eq, if_neg (by simp [h]),
    List.foldl_append]
  split_ifs <;> rfl

theorem absolutize_normalize (p : Path) (hbase : base.isAbsolute = true) :
    p.normalize.absolutize base = p.absolutize base := by
  by_cases habs : p.isAbsolute = true
  · rw [absolutize, absolutize, join_of_isAbsolute habs,
      join_of_isAbsolute (isAbsolute_normalize habs), normalize_normalize habs]
  · have hrel : p.isAbsolute = false := by simpa using habs
    obtain ⟨hrel', hbody⟩ := body_normalize_of_relative hrel
    refine normalize_eq_of_trail_eq (isAbsolute_join_of_isAbsolute _ hbase)
      (isAbsolute_join_of_isAbsolute _ hbase) ?_
    rw [trail_join hrel', trail_join hrel, hbody, foldl_descend_normalComponents hrel]

theorem absolutize_normalize_base (p : Path) (hbase : base.isAbsolute = true) :
    p.absolutize base.normalize = p.absolutize base :=
  normalize_join_congr p (isAbsolute_normalize hbase) hbase (normalize_normalize hbase)

/-- Two paths joined lead where the second one leads from the end of the first. -/
theorem absolutize_join (p q : Path) (hbase : base.isAbsolute = true) :
    (p.join q).absolutize base = q.absolutize (p.absolutize base) := by
  have hjoin : (base.join p).isAbsolute = true := isAbsolute_join_of_isAbsolute p hbase
  calc (p.join q).absolutize base
      = ((base.join p).join q).normalize := normalize_join_join p q hbase
    _ = q.absolutize (base.join p).normalize := (absolutize_normalize_base q hjoin).symm

/-- Lexical resolution is canonical and can be done in stages. Normal forms are their own normal
forms. What is resolved against an absolute base is absolute and has no `.` or `..` in it, while the
normal form of a relative path goes up and then down. It makes no difference if either path is
brought into normal form first, or if two paths are followed one after the other; either of them may
start from the root. -/
theorem absolutize_canonical_staged (p q : Path) (hbase : base.isAbsolute = true) :
    p.normalize.normalize = p.normalize ∧
      ((p.absolutize base).isAbsolute = true ∧
        ['.'] ∉ (p.absolutize base).pieces ∧ ['.', '.'] ∉ (p.absolutize base).pieces) ∧
      (p.isAbsolute = false → UpThenDown p.normalize.components) ∧
      (p.normalize.absolutize base = p.absolutize base ∧
        p.absolutize base.normalize = p.absolutize base) ∧
      (p.join q).absolutize base = q.absolutize (p.absolutize base) := by
  have hcanonical := isCanonical_absolutize p hbase
  refine ⟨normalize_idem p, ⟨hcanonical.absolute, hcanonical.not_mem_pieces⟩, fun hrel => ?_,
    ⟨absolutize_normalize p hbase, absolutize_normalize_base p hbase⟩, absolutize_join p q hbase⟩
  obtain ⟨up, down, heq, -⟩ := normalComponents_of_relative hrel
  exact ⟨up, down, (components_normalize_of_relative hrel).trans heq⟩

/-- A way that climbs past the root and down again, and what follows it. -/
theorem absolutize_canonical_staged_climbing :
    let p : Path := ⟨"./x/../../..//y/."⟩
    let q : Path := ⟨"../z/"⟩
    let base : Path := ⟨"/a/./b/.."⟩
    base.isAbsolute = true ∧ p.isAbsolute = false ∧ p.normalize = ⟨"../../y"⟩ ∧
      UpThenDown p.normalize.components ∧ p.absolutize base = ⟨"/y"⟩ ∧
      (p.join q).absolutize base = q.absolutize ⟨"/y"⟩ ∧ q.absolutize ⟨"/y"⟩ = ⟨"/z"⟩ := by
  intro p q base
  have hbase : base.isAbsolute = true := by decide
  have hrel : p.isAbsolute = false := by decide
  have hplace : p.absolutize base = ⟨"/y"⟩ := by decide
  obtain ⟨-, -, hsteps, -, hstaged⟩ := absolutize_canonical_staged p q hbase
  rw [hplace] at hstaged
  exact ⟨hbase, hrel, by decide, hsteps hrel, hplace, hstaged, by decide⟩

end StylesheetAssets.Path
