import Mathlib.Data.List.Forall2
import StylesheetAssets.Rewrite.Value

/-!
Steps that ask for copies, as functions of the queue and the session they start from.
-/
namespace StylesheetAssets

/-- A step that cannot fail, in front of one that can. -/
theorem liftM_bind {σ ε α β : Type} (x : StateM σ α) (f : α → ExceptT ε (StateM σ) β) (s : σ) :
    ((liftM x : ExceptT ε (StateM σ) α) >>= f) s = f (x s).1 (x s).2 := rfl

namespace Copying

variable {α β : Type}

/-- What a step answers, and the queue and the session behind it. -/
def exec (x : Copying α) (w : CopyQueue × Session) :
    Except RewriteError α × CopyQueue × Session :=
  let r := (x.run.run w.1).run w.2
  (r.1.1, r.1.2, r.2)

theorem exec_bind (x : Copying α) (f : α → Copying β) (w : CopyQueue × Session) :
    (x >>= f).exec w =
      match (x.exec w).1 with
      | .ok a => (f a).exec (x.exec w).2
      | .error e => (.error e, (x.exec w).2) := by
  have hbind : ((x >>= f).run.run w.1).run w.2 =
      ((ExceptT.bindCont f ((x.run.run w.1).run w.2).1.1).run ((x.run.run w.1).run w.2).1.2).run
        ((x.run.run w.1).run w.2).2 := rfl
  unfold exec
  rw [hbind]
  cases ((x.run.run w.1).run w.2).1.1 <;> rfl

/-- Whatever the step answers has the property, and it fails only where the disk refuses. -/
structure Gives (x : Copying α) (P : α → Prop) : Prop where
  outcome : ∀ w, match (x.exec w).1 with
    | .ok a => P a
    | .error e => e.cause?.isSome

theorem Gives.of_ok {x : Copying α} {P : α → Prop} {w w' : CopyQueue × Session} {a : α}
    (h : x.Gives P) (hx : x.exec w = (.ok a, w')) : P a := by
  simpa [hx] using h.outcome w

theorem Gives.of_error {x : Copying α} {P : α → Prop} {w w' : CopyQueue × Session}
    {e : RewriteError} (h : x.Gives P) (hx : x.exec w = (.error e, w')) : e.cause?.isSome := by
  simpa [hx] using h.outcome w

theorem Gives.mono {x : Copying α} {P Q : α → Prop} (h : x.Gives P) (hPQ : ∀ a, P a → Q a) :
    x.Gives Q := by
  constructor
  intro w
  have hw := h.outcome w
  cases hr : (x.exec w).1 with
  | ok a =>
    rw [hr] at hw
    exact hPQ a hw
  | error e =>
    rw [hr] at hw
    exact hw

/-- What a step gives, it also answers somewhere. -/
theorem Gives.answered {x : Copying α} {P : α → Prop} (h : x.Gives P) :
    x.Gives fun a => P a ∧ ∃ w w', x.exec w = (.ok a, w') := by
  constructor
  intro w
  have hw := h.outcome w
  cases hr : x.exec w with
  | mk r w' =>
    rw [hr] at hw
    cases r with
    | ok a => exact ⟨hw, w, w', hr⟩
    | error e => exact hw

theorem gives_pure {P : α → Prop} {a : α} (h : P a) : (pure a : Copying α).Gives P := ⟨fun _ => h⟩

theorem gives_throw {P : α → Prop} {e : RewriteError} (h : e.cause?.isSome) :
    (throw e : Copying α).Gives P := ⟨fun _ => h⟩

theorem Gives.bind {x : Copying α} {f : α → Copying β} {P : α → Prop} {Q : β → Prop}
    (hx : x.Gives P) (hf : ∀ a, P a → (f a).Gives Q) : (x >>= f).Gives Q := by
  constructor
  intro w
  have hw := hx.outcome w
  rw [exec_bind]
  cases hr : (x.exec w).1 with
  | ok a =>
    rw [hr] at hw
    exact (hf a hw).outcome _
  | error e =>
    rw [hr] at hw
    exact hw

/-- A step of the session alone never fails. -/
theorem gives_liftM (x : StateM Session α) : (liftM x : Copying α).Gives fun _ => True :=
  ⟨fun _ => trivial⟩

theorem gives_ofSession {x : StateM Session (Except RewriteError α)}
    (h : ∀ s e, (x s).1 = .error e → e.cause?.isSome) :
    (ofSession x).Gives fun _ => True := by
  constructor
  intro w
  have hx : ((ofSession x).exec w).1 = (x w.2).1 := rfl
  rw [hx]
  cases hr : (x w.2).1 with
  | ok a => trivial
  | error e => exact h w.2 e hr

theorem Gives.mapM {f : α → Copying β} {R : α → β → Prop} {as : List α}
    (h : ∀ a ∈ as, (f a).Gives (R a)) : (as.mapM f).Gives (List.Forall₂ R as) := by
  induction as with
  | nil => exact gives_pure .nil
  | cons a as ih =>
    rw [List.mapM_cons]
    refine Gives.bind (h a List.mem_cons_self) fun b hb => ?_
    refine Gives.bind (ih fun c hc => h c (List.mem_cons_of_mem a hc)) fun bs hbs => ?_
    exact gives_pure (.cons hb hbs)

end Copying

end StylesheetAssets
