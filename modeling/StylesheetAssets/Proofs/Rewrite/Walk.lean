import StylesheetAssets.Proofs.Rewrite.Splicing
import StylesheetAssets.Proofs.Stylesheet.Outline
import StylesheetAssets.Rewrite.Sheet

/-!
The walk over the values of a node, as it rewrites them: how far it comes, and what it leaves
behind when it stops.
-/
namespace StylesheetAssets

open Stylesheet (Node valuesOfAll visitAll outlineOfAll)

namespace Rewriting

variable {α β : Type}

/-- What a pass answers, and the counts, the queue and the session behind it. -/
def exec (x : Rewriting α) (w : RewriteStats × CopyQueue × Session) :
    α × RewriteStats × CopyQueue × Session :=
  let r := ((x.run w.1).run w.2.1).run w.2.2
  (r.1.1.1, r.1.1.2, r.1.2, r.2)

theorem exec_pure (a : α) (w : RewriteStats × CopyQueue × Session) :
    (pure a : Rewriting α).exec w = (a, w) := rfl

theorem exec_bind (x : Rewriting α) (f : α → Rewriting β) (w : RewriteStats × CopyQueue × Session) :
    (x >>= f).exec w = (f (x.exec w).1).exec (x.exec w).2 := rfl

/-- What asks for copies leaves the counts as they are. -/
theorem exec_liftM (x : Copying α) (w : RewriteStats × CopyQueue × Session) :
    (liftM x.run : Rewriting (Except RewriteError α)).exec w =
      ((x.exec w.2).1, w.1, (x.exec w.2).2) := rfl

end Rewriting

/-- Values with the directories that they are resolved against, before and after a pass that met
the given failure. Each value in front of the failure is rewritten as a whole. The value that fails
is left as it was, and so are those behind it. -/
inductive Walked (config : Config) :
    List (Path × String) → List String → Option RewriteError → Prop
  | done : Walked config [] [] none
  | next {base : Path} {old new : String} {olds : List (Path × String)} {news : List String}
      {failure : Option RewriteError} (rewritten : FullyRewritten config base old new)
      (rest : Walked config olds news failure) :
      Walked config ((base, old) :: olds) (new :: news) failure
  | stop {base : Path} {value : String} {e : RewriteError}
      (refused : ∃ w w', (rewriteValue config base value).exec w = (.error e, w'))
      (after : List (Path × String)) :
      Walked config ((base, value) :: after) (value :: after.map (·.2)) (some e)

def countReferences (values : List String) : Nat :=
  (values.flatMap fun value => Url.references value.toList).length

theorem countReferences_append (xs ys : List String) :
    countReferences (xs ++ ys) = countReferences xs + countReferences ys := by
  simp [countReferences]

namespace Walked

variable {config : Config} {olds olds' : List (Path × String)} {news news' : List String}
  {failure : Option RewriteError} {e : RewriteError}

theorem append (h : Walked config olds news none) (h' : Walked config olds' news' failure) :
    Walked config (olds ++ olds') (news ++ news') failure := by
  generalize hnone : (none : Option RewriteError) = f at h
  induction h with
  | done => exact h'
  | next rewritten _ ih => exact .next rewritten (ih hnone)
  | stop => cases hnone

theorem append_stopped (h : Walked config olds news (some e)) (after : List (Path × String)) :
    Walked config (olds ++ after) (news ++ after.map (·.2)) (some e) := by
  generalize hsome : some e = f at h
  induction h with
  | done => cases hsome
  | next rewritten _ ih => exact .next rewritten (ih hsome)
  | stop refused rest =>
    rw [List.cons_append, List.cons_append, ← List.map_append]
    exact .stop refused (rest ++ after)

theorem forall₂ (h : Walked config olds news none) :
    List.Forall₂ (fun old new => FullyRewritten config old.1 old.2 new) olds news := by
  generalize hnone : (none : Option RewriteError) = f at h
  induction h with
  | done => exact .nil
  | next rewritten _ ih => exact .cons rewritten (ih hnone)
  | stop => cases hnone

/-- There is one value at which a pass that failed has stopped. -/
theorem exists_stop (h : Walked config olds news (some e)) :
    ∃ before base value after rewritten,
      olds = before ++ (base, value) :: after ∧ news = rewritten ++ value :: after.map (·.2) ∧
      List.Forall₂ (fun old new => FullyRewritten config old.1 old.2 new) before rewritten ∧
      ∃ w w', (rewriteValue config base value).exec w = (.error e, w') := by
  generalize hsome : some e = f at h
  induction h with
  | done => cases hsome
  | next rewritten _ ih =>
    obtain ⟨before, base, value, after, done, rfl, rfl, hdone, hrefused⟩ := ih hsome
    exact ⟨_ :: before, base, value, after, _ :: done, rfl, rfl, .cons rewritten hdone, hrefused⟩
  | @stop base value _ refused after =>
    cases hsome
    exact ⟨[], base, value, after, [], rfl, rfl, .nil, refused⟩

end Walked

/-- A pass over values, from counts to counts: a pass that ends has counted every reference. -/
structure Pass (config : Config) (before : RewriteStats) (olds : List (Path × String))
    (news : List String) (failure : Option RewriteError) (after : RewriteStats) : Prop where
  walked : Walked config olds news failure
  total_eq : failure = none → after.total = before.total + countReferences (olds.map (·.2))

namespace Pass

variable {config : Config} {s s' s'' : RewriteStats} {olds olds' : List (Path × String)}
  {news news' : List String} {failure : Option RewriteError} {e : RewriteError}

theorem nil (config : Config) (s : RewriteStats) : Pass config s [] [] none s :=
  ⟨.done, fun _ => rfl⟩

theorem append (h : Pass config s olds news none s')
    (h' : Pass config s' olds' news' failure s'') :
    Pass config s (olds ++ olds') (news ++ news') failure s'' := by
  refine ⟨h.walked.append h'.walked, fun hnone => ?_⟩
  rw [h'.total_eq hnone, h.total_eq rfl, List.map_append, countReferences_append, Nat.add_assoc]

theorem append_stopped (h : Pass config s olds news (some e) s') (after : List (Path × String)) :
    Pass config s (olds ++ after) (news ++ after.map (·.2)) (some e) s' :=
  ⟨h.walked.append_stopped after, nofun⟩

end Pass

/-- Rewriting one value answers it fully rewritten and counts its references, or fails. -/
theorem visitValue_exec (config : Config) (base : Path) (value : String)
    (w : RewriteStats × CopyQueue × Session) :
    (∃ new w', (visitValue config base value).exec w = (.ok new, w') ∧
        Pass config w.1 [(base, value)] [new] none w'.1) ∨
      ∃ e w', (visitValue config base value).exec w = (.error e, w') ∧
        Pass config w.1 [(base, value)] [value] (some e) w'.1 := by
  unfold visitValue
  rw [Rewriting.exec_bind, Rewriting.exec_liftM]
  cases hr : (rewriteValue config base value).exec w.2 with
  | mk r w' =>
    cases r with
    | ok answer =>
      obtain ⟨hrewritten, htotal⟩ := (gives_rewriteValue config base value).of_ok hr
      refine .inl ⟨answer.1, (w.1.merge answer.2, w'), rfl, .next hrewritten .done, fun _ => ?_⟩
      rw [RewriteStats.total_merge, htotal]
      simp [countReferences]
    | error e => exact .inr ⟨e, (w.1, w'), rfl, .stop ⟨w.2, w', hr⟩ [], nofun⟩

mutual

/-- The walk over a node keeps its outline and passes over its values. -/
theorem visitValues_exec (config : Config) (base : Path) (node : Node)
    (w : RewriteStats × CopyQueue × Session) :
    ((node.visitValues (visitValue config base)).exec w).1.1.outline = node.outline ∧
      Pass config w.1 (node.values.map (base, ·))
        ((node.visitValues (visitValue config base)).exec w).1.1.values
        ((node.visitValues (visitValue config base)).exec w).1.2
        ((node.visitValues (visitValue config base)).exec w).2.1 := by
  cases node with
  | declaration property value =>
    simp only [Node.visitValues, Rewriting.exec_bind]
    rcases visitValue_exec config base value w with
      ⟨new, w', hvisit, hpass⟩ | ⟨e, w', hvisit, hpass⟩
    · rw [hvisit]
      exact ⟨rfl, hpass⟩
    · rw [hvisit]
      exact ⟨rfl, hpass⟩
  | rule selector nodes =>
    obtain ⟨houtline, hpass⟩ := visitAll_exec config base nodes w
    simp only [Node.visitValues, Rewriting.exec_bind]
    exact ⟨congrArg (Node.rule selector) houtline, hpass⟩
  | atBlock name params nodes =>
    obtain ⟨houtline, hpass⟩ := visitAll_exec config base nodes w
    simp only [Node.visitValues, Rewriting.exec_bind]
    exact ⟨congrArg (Node.atBlock name params) houtline, hpass⟩
  | atStatement name params => exact ⟨rfl, .nil config w.1⟩
  | comment text => exact ⟨rfl, .nil config w.1⟩

theorem visitAll_exec (config : Config) (base : Path) (nodes : List Node)
    (w : RewriteStats × CopyQueue × Session) :
    outlineOfAll ((visitAll (visitValue config base) nodes).exec w).1.1 = outlineOfAll nodes ∧
      Pass config w.1 ((valuesOfAll nodes).map (base, ·))
        (valuesOfAll ((visitAll (visitValue config base) nodes).exec w).1.1)
        ((visitAll (visitValue config base) nodes).exec w).1.2
        ((visitAll (visitValue config base) nodes).exec w).2.1 := by
  cases nodes with
  | nil => exact ⟨rfl, .nil config w.1⟩
  | cons node rest =>
    obtain ⟨houtline, hpass⟩ := visitValues_exec config base node w
    simp only [visitAll, Rewriting.exec_bind]
    generalize (node.visitValues (visitValue config base)).exec w = r at houtline hpass ⊢
    rcases r with ⟨⟨node', _ | e⟩, w'⟩
    · obtain ⟨houtlines, hpasses⟩ := visitAll_exec config base rest w'
      refine ⟨congrArg₂ List.cons houtline houtlines, ?_⟩
      rw [valuesOfAll, List.map_append]
      exact hpass.append hpasses
    · refine ⟨congrArg (· :: outlineOfAll rest) houtline, ?_⟩
      have hstopped := hpass.append_stopped ((valuesOfAll rest).map (base, ·))
      simpa [valuesOfAll, Rewriting.exec_pure, Function.comp_def] using hstopped

end

end StylesheetAssets
