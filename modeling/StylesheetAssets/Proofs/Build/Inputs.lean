import Mathlib.Data.List.Perm.Basic
import StylesheetAssets.Build.All

/-!
Which inputs are refused, and what of that and of the summaries depends on their order.
-/
namespace StylesheetAssets

/-- Inputs are refused unless all have names, and no two the same. -/
theorem checkNames_eq_ok {seen : List (String × Path)} {inputs : List Path} :
    checkNames seen inputs = .ok () ↔
      (∀ input ∈ inputs, ∃ name, input.fileName? = some name ∧ seen.lookup name = none) ∧
        (inputs.map (·.fileName?)).Nodup := by
  induction inputs generalizing seen with
  | nil => simp [checkNames]
  | cons input inputs ih =>
    rw [checkNames, List.forall_mem_cons, List.map_cons, List.nodup_cons]
    cases hname : input.fileName? with
    | none => simp
    | some name =>
      cases hseen : seen.lookup name with
      | some first =>
        simp only [hseen]
        refine iff_of_false nofun fun h => ?_
        obtain ⟨⟨⟨t, ht, hnone⟩, -⟩, -⟩ := h
        rw [← Option.some.inj ht, hseen] at hnone
        cases hnone
      | none =>
        have hlookup (other : String) : ((name, input) :: seen).lookup other = none ↔
            other ≠ name ∧ seen.lookup other = none := by
          rw [List.lookup_cons]
          by_cases h : other = name
          · simp [h]
          · rw [beq_eq_false_iff_ne.2 h]
            exact ⟨fun hnone => ⟨h, hnone⟩, fun hnone => hnone.2⟩
        simp only [hseen, ih, hlookup, List.mem_map, Option.some.injEq]
        constructor
        · rintro ⟨hnames, hdistinct⟩
          refine ⟨⟨⟨name, rfl, hseen⟩, fun other hother => ?_⟩, ?_, hdistinct⟩
          · obtain ⟨t, ht, -, hnone⟩ := hnames other hother
            exact ⟨t, ht, hnone⟩
          · rintro ⟨other, hother, hsame⟩
            obtain ⟨t, ht, hne, -⟩ := hnames other hother
            rw [hsame] at ht
            exact hne (Option.some.inj ht).symm
        · rintro ⟨⟨-, hnames⟩, hnew, hdistinct⟩
          refine ⟨fun other hother => ?_, hdistinct⟩
          obtain ⟨t, ht, hnone⟩ := hnames other hother
          exact ⟨t, ht, fun hsame => hnew ⟨other, hother, by rw [ht, hsame]⟩, hnone⟩

theorem checkNames_perm {inputs inputs' : List Path} (h : inputs.Perm inputs')
    (hok : checkNames [] inputs = .ok ()) : checkNames [] inputs' = .ok () := by
  obtain ⟨hnames, hdistinct⟩ := checkNames_eq_ok.1 hok
  exact checkNames_eq_ok.2 ⟨fun input hinput => hnames input (h.mem_iff.2 hinput),
    (h.map _).nodup_iff.1 hdistinct⟩

theorem outputPath_eq_ok {outDir input output : Path} : outputPath outDir input = .ok output ↔
    ∃ name, input.fileName? = some name ∧ output = outDir.join ⟨name⟩ := by
  unfold outputPath
  cases input.fileName? <;> simp [eq_comm]

theorem totalOf_perm {summaries summaries' : List BuildSummary} (h : summaries.Perm summaries')
    (conflicts : Nat) : totalOf summaries conflicts = totalOf summaries' conflicts := by
  have hstats : RightCommutative fun (total : RewriteStats) (sheet : BuildSummary) =>
      total.merge sheet.stats :=
    ⟨fun total a b => by simp only [RewriteStats.merge, Nat.add_right_comm]⟩
  have hcopies : RightCommutative fun (total : Nat) (sheet : BuildSummary) =>
      total + sheet.copies := ⟨fun total a b => Nat.add_right_comm ..⟩
  rw [totalOf, totalOf, h.foldl_eq, h.foldl_eq]

theorem exists_map_perm {α β : Type} {f : α → β} {as : List α} {bs : List β}
    (h : (as.map f).Perm bs) : ∃ as', as.Perm as' ∧ bs = as'.map f := by
  have hmap : List.Forall₂ (fun b a => b = f a) (as.map f) as :=
    List.forall₂_map_left_iff.2 (List.forall₂_same.2 fun _ _ => rfl)
  obtain ⟨as', hrelated, hperm⟩ := List.perm_comp_forall₂ h.symm hmap
  refine ⟨as', hperm.symm, ?_⟩
  rw [← List.forall₂_eq_eq_eq, List.forall₂_map_right_iff]
  exact hrelated

theorem mapM_id_eq_ok {ε α : Type} {results : List (Except ε α)} {as : List α} :
    results.mapM id = .ok as ↔ results = as.map .ok := by
  induction results generalizing as with
  | nil => simp [pure, Except.pure, eq_comm]
  | cons r results ih =>
    rw [List.mapM_cons]
    cases r with
    | error e => cases as <;> simp [bind, Except.bind]
    | ok a =>
      cases hrest : results.mapM id with
      | error e =>
        have hne : ∀ bs : List α, results ≠ bs.map .ok := by
          intro bs hbs
          cases hrest.symm.trans (ih.2 hbs)
        cases as with
        | nil => simp [bind, Except.bind]
        | cons b bs => simp [bind, Except.bind, hne bs]
      | ok bs =>
        obtain rfl := ih.1 hrest
        cases as with
        | nil => simp [bind, Except.bind, pure, Except.pure]
        | cons b bs' =>
          have hinj := List.map_injective_iff.2 (fun a b : α => Except.ok.inj (ε := ε))
          simp [bind, Except.bind, pure, Except.pure, hinj.eq_iff]

end StylesheetAssets
