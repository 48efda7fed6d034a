import StylesheetAssets.Parallel.Copies
import StylesheetAssets.Parallel.Program

/-!
Where programs come to, by the answers that they are given. Nothing is said here of who answers.
-/
namespace StylesheetAssets.Parallel

variable {α β ε σ : Type}

namespace Program

/-- So answered, the one program goes on as the other one. -/
inductive Leads : Program α → List Exchange → Program α → Prop
  | nil (x : Program α) : Leads x [] x
  | cons {r : Request} {next : r.Answer → Program α} {answer : r.Answer} {es : List Exchange}
      {x : Program α} (rest : Leads (next answer) es x) : Leads (.ask r next) (⟨r, answer⟩ :: es) x

variable {x y z : Program α} {es more : List Exchange} {a : α} {b : β}

theorem Leads.trans (h : x.Leads es y) (h' : y.Leads more z) : x.Leads (es ++ more) z := by
  induction h with
  | nil => exact h'
  | cons _ ih => exact .cons (ih h')

/-- What two programs have in common of their answers, they have in common of their ways. -/
theorem Leads.rest (h : x.Leads es y) (h' : x.Leads (es ++ more) z) : y.Leads more z := by
  induction h with
  | nil => exact h'
  | cons _ ih =>
    cases h' with
    | cons rest => exact ih rest

theorem leads_done : (done a).Leads es y ↔ es = [] ∧ y = done a := by
  constructor
  · rintro ⟨⟩
    exact ⟨rfl, rfl⟩
  · rintro ⟨rfl, rfl⟩
    exact .nil _

theorem leads_pure {a' : α} : (pure a : Program α).Leads es (done a') ↔ es = [] ∧ a' = a := by
  refine leads_done.trans (and_congr_right fun _ => ?_)
  exact ⟨fun h => Program.done.inj h, congrArg done⟩

theorem leads_request {r : Request} {answer : r.Answer} :
    (request r).Leads es (done answer) ↔ es = [⟨r, answer⟩] := by
  constructor
  · rintro ⟨⟩
    next rest =>
      obtain ⟨rfl, hanswer⟩ := leads_pure.1 rest
      rw [hanswer]
  · rintro rfl
    exact .cons (.nil _)

theorem leads_bind {f : α → Program β} :
    (x >>= f).Leads es (done b) ↔
      ∃ front a back, es = front ++ back ∧ x.Leads front (done a) ∧
        (f a).Leads back (done b) := by
  constructor
  · intro h
    induction x generalizing es with
    | done a => exact ⟨[], a, es, rfl, .nil _, h⟩
    | ask r next ih =>
      cases h with
      | cons rest =>
        obtain ⟨front, a, back, rfl, hfront, hback⟩ := ih _ rest
        exact ⟨_ :: front, a, back, rfl, .cons hfront, hback⟩
  · rintro ⟨front, a, back, rfl, hfront, hback⟩
    induction x generalizing front with
    | done a =>
      obtain ⟨rfl, ha⟩ := leads_pure.1 hfront
      rwa [← ha]
    | ask r next ih =>
      cases hfront with
      | cons rest => exact .cons (ih _ _ rest)

end Program

open Program

/-! ### Steps that keep copies under way -/

namespace Collecting

variable {copies copies' : List Pending} {es : List Exchange} {a : α} {b : β}

/-- A step that comes to an answer comes to it in two parts. -/
theorem leads_bind {x : Collecting α} {f : α → Collecting β} :
    ((x >>= f) copies).Leads es (done (.ok b, copies')) ↔
      ∃ front a between back, es = front ++ back ∧ (x copies).Leads front (done (.ok a, between)) ∧
        (f a between).Leads back (done (.ok b, copies')) := by
  have hbind : (x >>= f) copies =
      x copies >>= fun r => (ExceptT.bindCont f r.1 : StateT _ _ _) r.2 := rfl
  rw [hbind, Program.leads_bind]
  constructor
  · rintro ⟨front, ⟨r, between⟩, back, rfl, hfront, hback⟩
    cases r with
    | ok a => exact ⟨front, a, between, back, rfl, hfront, hback⟩
    | error e =>
      have hend := (leads_pure.1 hback).2
      cases hend
  · rintro ⟨front, a, between, back, rfl, hfront, hback⟩
    exact ⟨front, (.ok a, between), back, rfl, hfront, hback⟩

theorem leads_lift {x : Program α} :
    ((liftM x : Collecting α) copies).Leads es (done (.ok a, copies')) ↔
      x.Leads es (done a) ∧ copies' = copies := by
  have hlift : (liftM x : Collecting α) copies =
      (x >>= fun a => pure (a, copies)) >>= fun r => pure (.ok r.1, r.2) := rfl
  rw [hlift, Program.leads_bind]
  constructor
  · rintro ⟨front, ⟨a', between⟩, back, rfl, hfront, hback⟩
    obtain ⟨rfl, hend⟩ := Program.leads_pure.1 hback
    cases hend
    obtain ⟨front, a'', last, rfl, hx, hlast⟩ := Program.leads_bind.1 hfront
    obtain ⟨rfl, hend⟩ := Program.leads_pure.1 hlast
    cases hend
    rw [List.append_nil, List.append_nil]
    exact ⟨hx, rfl⟩
  · rintro ⟨h, rfl⟩
    exact ⟨es, (a, copies'), [], (List.append_nil es).symm, Program.leads_bind.2
      ⟨es, a, [], (List.append_nil es).symm, h, .nil _⟩, .nil _⟩

theorem leads_pure {a' : α} :
    ((pure a : Collecting α) copies).Leads es (done (.ok a', copies')) ↔
      es = [] ∧ a' = a ∧ copies' = copies := by
  refine Program.leads_pure.trans (and_congr_right fun _ => ?_)
  simp

theorem leads_modify {f : List Pending → List Pending} {u : Unit} :
    ((modify f : Collecting Unit) copies).Leads es (done (.ok u, copies')) ↔
      es = [] ∧ copies' = f copies := by
  have hmodify : (modify f : Collecting Unit) copies = pure (.ok (), f copies) := rfl
  rw [hmodify, Program.leads_pure]
  simp

theorem leads_get {c : List Pending} :
    ((get : Collecting (List Pending)) copies).Leads es (done (.ok c, copies')) ↔
      es = [] ∧ c = copies ∧ copies' = copies := by
  have hget : (get : Collecting (List Pending)) copies = pure (.ok copies, copies) := rfl
  rw [hget, Program.leads_pure]
  simp

/-- A step that fails comes to no answer. -/
theorem not_leads_throw {e : RewriteError} :
    ¬((throw e : Collecting α) copies).Leads es (done (.ok a, copies')) := by
  intro h
  have hend := (Program.leads_pure.1 h).2
  cases hend

end Collecting

end StylesheetAssets.Parallel
