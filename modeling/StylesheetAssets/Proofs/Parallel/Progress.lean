import StylesheetAssets.Proofs.Parallel.Running

/-!
No crew gets stuck: whatever was done so far, it can be carried on until all programs are at their
ends.
-/
namespace StylesheetAssets.Parallel

open Program

variable {α β : Type}

/-- Only a copy that is not made yet keeps a program waiting. -/
theorem Request.answer?_eq_none {r : Request} {transfers : List Transfer} {shared : Shared}
    (h : r.answer? transfers shared = none) : ∃ copy source destination, r = .join copy ∧
      transfers[copy.ticket]? = some ⟨source, destination, none⟩ := by
  cases r with
  | join copy =>
    have hnone : outcomeAt transfers copy.ticket = none := Option.map_eq_none_iff.1 h
    rw [outcomeAt] at hnone
    split at hnone
    · next transfer hticket =>
      obtain ⟨source, destination, outcome?⟩ := transfer
      obtain rfl : outcome? = none := hnone
      exact ⟨copy, source, destination, rfl, hticket⟩
    · cases hnone
  | _ => cases h

theorem set_of_getElem? {l : List α} {i : Nat} {a : α} (h : l[i]? = some a) : l.set i a = l := by
  obtain ⟨hlt, rfl⟩ := List.getElem?_eq_some_iff.1 h
  exact List.set_getElem_self hlt

/-! ### One worker while the others wait -/

/-- What a worker comes to by steps of its own. -/
inductive Worker.Gets : Worker α → Shared → Worker α → Shared → Prop
  | refl (w : Worker α) (shared : Shared) : Gets w shared w shared
  | step {w w₁ w' : Worker α} {shared shared₁ shared' : Shared} {move : Move} {deed : Deed}
      (first : w.step? shared move = some (deed, w₁, shared₁))
      (rest : Gets w₁ shared₁ w' shared') : Gets w shared w' shared'

namespace Worker.Gets

variable {w w' w'' : Worker α} {shared shared' shared'' : Shared}

theorem trans (h : w.Gets shared w' shared') (h' : w'.Gets shared' w'' shared'') :
    w.Gets shared w'' shared'' := by
  induction h with
  | refl => exact h'
  | step first _ ih => exact .step first (ih h')

theorem ask {r : Request} {next : r.Answer → Program α} {transfers transfers' : List Transfer}
    {answer : r.Answer} (h : r.answer? transfers shared = some (answer, transfers', shared')) :
    Gets ⟨.ask r next, transfers⟩ shared ⟨next answer, transfers'⟩ shared' := by
  have hstep : step? ⟨.ask r next, transfers⟩ shared .advance =
      some (.asked ⟨r, answer⟩, ⟨next answer, transfers'⟩, shared') := by
    simp only [step?, h, Option.map_some]
  exact .step hstep (.refl _ _)

/-- A copy that was handed out is made. -/
theorem transfer {x : Program α} {transfers : List Transfer} {ticket : Nat}
    {source destination : Path} (h : transfers[ticket]? = some ⟨source, destination, none⟩) :
    Gets ⟨x, transfers⟩ shared
      ⟨x, transfers.set ticket ⟨source, destination,
        some (Session.copyFile source destination shared.session).1⟩⟩
      { shared with session := (Session.copyFile source destination shared.session).2 } := by
  have hstep : step? ⟨x, transfers⟩ shared (.transfer ticket) =
      some (.copied source destination (Session.copyFile source destination shared.session).1,
        ⟨x, transfers.set ticket ⟨source, destination,
          some (Session.copyFile source destination shared.session).1⟩⟩,
        { shared with session := (Session.copyFile source destination shared.session).2 }) := by
    rw [step?, h]
    rfl
  exact .step hstep (.refl _ _)

/-- What comes behind a program waits for it. -/
theorem bind (h : w.Gets shared w' shared') (f : α → Program β) :
    Gets ⟨w.program >>= f, w.transfers⟩ shared ⟨w'.program >>= f, w'.transfers⟩ shared' := by
  induction h with
  | refl => exact .refl _ _
  | @step w w₁ w' shared shared₁ shared' move deed first _ ih =>
    refine trans ?_ ih
    rcases step?_cases first with ⟨r, next, answer, transfers, hprogram, hanswer, -, rfl⟩ |
      ⟨ticket, source, destination, outcome, hticket, hcopy, hregistry, -, rfl⟩
    · rw [hprogram]
      exact ask hanswer
    · have hmade : Gets ⟨w.program >>= f, w.transfers⟩ shared _ _ := transfer hticket
      obtain ⟨session, registry⟩ := shared₁
      cases hregistry
      rw [hcopy] at hmade
      exact hmade

/-- From everywhere a worker can come to the end of its program. -/
theorem exists_done (x : Program α) (transfers : List Transfer) (shared : Shared) :
    ∃ a transfers' shared', Gets ⟨x, transfers⟩ shared ⟨done a, transfers'⟩ shared' := by
  induction x generalizing transfers shared with
  | done a => exact ⟨a, transfers, shared, .refl _ _⟩
  | ask r next ih =>
    have hadvance {transfers : List Transfer} {shared : Shared}
        (hopen : r.answer? transfers shared ≠ none) : ∃ a transfers' shared',
          Gets ⟨.ask r next, transfers⟩ shared ⟨done a, transfers'⟩ shared' := by
      obtain ⟨⟨answer, transfers₁, shared₁⟩, hanswer⟩ := Option.ne_none_iff_exists'.1 hopen
      obtain ⟨a, transfers', shared', hrest⟩ := ih answer transfers₁ shared₁
      exact ⟨a, transfers', shared', (ask hanswer).trans hrest⟩
    by_cases hopen : r.answer? transfers shared = none
    · -- What it waits for is made first.
      obtain ⟨copy, source, destination, rfl, hticket⟩ := Request.answer?_eq_none hopen
      have hmade : Gets ⟨.ask (.join copy) next, transfers⟩ shared _ _ := transfer hticket
      have hopen {outcome : Except DiskError Nat} {shared : Shared} : Request.answer?
          (transfers.set copy.ticket ⟨source, destination, some outcome⟩) shared (.join copy) ≠
            none := by
        rw [Request.answer?, Request.outcomeAt,
          List.getElem?_set_self (List.getElem?_eq_some_iff.1 hticket).1]
        exact Option.some_ne_none _
      obtain ⟨a, transfers', shared', hrest⟩ := hadvance hopen
      exact ⟨a, transfers', shared', hmade.trans hrest⟩
    · exact hadvance hopen

end Worker.Gets

namespace Crew

theorem step_of_step? {c : Crew α} {worker : Nat} {w w' : Worker α} {move : Move} {deed : Deed}
    {shared : Shared} (hw : c.workers[worker]? = some w)
    (hstep : w.step? c.shared move = some (deed, w', shared)) :
    c.step ⟨worker, move⟩ = ⟨shared, c.workers.set worker w'⟩ := by
  have hnext : c.step? ⟨worker, move⟩ = some (deed, ⟨shared, c.workers.set worker w'⟩) :=
    step?_eq_some.2 ⟨w, w', shared, hw, hstep, rfl⟩
  rw [step, hnext]

/-- The others wait. -/
theorem exists_run_of_gets {c : Crew α} {worker : Nat} {w w' : Worker α} {shared' : Shared}
    (hw : c.workers[worker]? = some w) (h : w.Gets c.shared w' shared') :
    ∃ schedule, c.run schedule = ⟨shared', c.workers.set worker w'⟩ := by
  obtain ⟨shared, workers⟩ := c
  dsimp only at hw h
  induction h generalizing workers with
  | refl w shared =>
    refine ⟨[], ?_⟩
    rw [set_of_getElem? hw]
    rfl
  | @step w w₁ w' shared shared₁ shared' move deed first _ ih =>
    have hlt := (List.getElem?_eq_some_iff.1 hw).1
    obtain ⟨schedule, hrun⟩ := ih (workers.set worker w₁) (List.getElem?_set_self hlt)
    refine ⟨⟨worker, move⟩ :: schedule, ?_⟩
    have hcons : run ⟨shared, workers⟩ (⟨worker, move⟩ :: schedule) =
        (step ⟨shared, workers⟩ ⟨worker, move⟩).run schedule := rfl
    rw [hcons, step_of_step? (c := ⟨shared, workers⟩) hw first, hrun, List.set_set]

/-- One worker can be brought to the end of its program, while the others wait. -/
theorem exists_done {c : Crew α} {worker : Nat} {w : Worker α}
    (hw : c.workers[worker]? = some w) :
    ∃ schedule shared a transfers,
      c.run schedule = ⟨shared, c.workers.set worker ⟨done a, transfers⟩⟩ := by
  obtain ⟨a, transfers, shared, hgets⟩ := Worker.Gets.exists_done w.program w.transfers c.shared
  obtain ⟨schedule, hrun⟩ := exists_run_of_gets hw hgets
  exact ⟨schedule, shared, a, transfers, hrun⟩

theorem length_step (c : Crew α) (turn : Turn) :
    (c.step turn).workers.length = c.workers.length := by
  rcases c.step_cases turn with ⟨hstep, -⟩ | ⟨deed, w, w', shared, -, -, -, hnext⟩
  · rw [hstep]
  · rw [hnext, List.length_set]

theorem length_run (c : Crew α) (schedule : List Turn) :
    (c.run schedule).workers.length = c.workers.length := by
  induction schedule generalizing c with
  | nil => rfl
  | cons turn schedule ih => exact (ih (c.step turn)).trans (length_step c turn)

/-- All workers can be brought to the ends of their programs, one after the other. -/
theorem exists_all_done (c : Crew α) :
    ∃ schedule, ∀ w ∈ (c.run schedule).workers, ∃ a, w.program = done a := by
  have hfirst (n : Nat) : ∃ schedule, ∀ (i : Nat) (w : Worker α), i < n →
      (c.run schedule).workers[i]? = some w → ∃ a, w.program = done a := by
    induction n with
    | zero => exact ⟨[], nofun⟩
    | succ n ih =>
      obtain ⟨schedule, hdone⟩ := ih
      cases hn : (c.run schedule).workers[n]? with
      | none =>
        refine ⟨schedule, fun i w hi hw =>
          hdone i w (Nat.lt_of_le_of_ne (Nat.le_of_lt_succ hi) ?_) hw⟩
        rintro rfl
        cases hn.symm.trans hw
      | some v =>
        obtain ⟨more, shared, a, transfers, hrun⟩ := exists_done hn
        refine ⟨schedule ++ more, fun i w hi hw => ?_⟩
        rw [run_append, hrun] at hw
        by_cases hin : n = i
        · subst hin
          rw [List.getElem?_set_self (List.getElem?_eq_some_iff.1 hn).1] at hw
          obtain rfl := Option.some.inj hw
          exact ⟨a, rfl⟩
        · rw [List.getElem?_set_ne hin] at hw
          exact hdone i w (Nat.lt_of_le_of_ne (Nat.le_of_lt_succ hi) (Ne.symm hin)) hw
  obtain ⟨schedule, hdone⟩ := hfirst c.workers.length
  refine ⟨schedule, fun w hw => ?_⟩
  obtain ⟨i, hi⟩ := List.getElem?_of_mem hw
  have hlt := (List.getElem?_eq_some_iff.1 hi).1
  rw [length_run] at hlt
  exact hdone i w hlt hi

/-- What a crew has come to, once all of its programs are at their ends. -/
theorem results?_eq_some {c : Crew α} {as : List α} :
    c.results? = some as ↔ c.workers.map (·.program) = as.map done := by
  obtain ⟨shared, workers⟩ := c
  rw [results?]
  dsimp only
  induction workers generalizing as with
  | nil => cases as <;> simp
  | cons w workers ih =>
    obtain ⟨x, transfers⟩ := w
    rw [List.mapM_cons, List.map_cons]
    cases x with
    | done a =>
      have hresults (rest : Option (List α)) :
          ((done a).result? >>= fun b => rest >>= fun bs => pure (b :: bs)) =
            rest.map (a :: ·) := by
        cases rest <;> rfl
      rw [hresults, Option.map_eq_some_iff]
      constructor
      · rintro ⟨bs, hbs, rfl⟩
        rw [List.map_cons, ih.1 hbs]
      · intro h
        obtain ⟨b, bs, rfl, hb, hbs⟩ := List.map_eq_cons_iff.1 h.symm
        cases hb
        exact ⟨bs, ih.2 hbs.symm, rfl⟩
    | ask r next =>
      refine iff_of_false (Option.some_ne_none _ ·.symm) fun h => ?_
      obtain ⟨b, bs, -, hb, -⟩ := List.map_eq_cons_iff.1 h.symm
      cases hb

end Crew

/-! ### A worker alone -/

/-- A crew of one worker, with its copies so far. -/
def alone (shared : Shared) (x : Program α) (transfers : List Transfer) : Crew α :=
  ⟨shared, [⟨x, transfers⟩]⟩

/-- A crew of one worker is known by what it has come to and handed out. -/
theorem eq_alone {c : Crew α} {a : α} {transfers : List Transfer} (hresults : c.results? = some [a])
    (htransfers : c.workers.map (·.transfers) = [transfers]) :
    c = alone c.shared (done a) transfers := by
  have hprograms := Crew.results?_eq_some.1 hresults
  obtain ⟨shared, workers⟩ := c
  obtain ⟨⟨x, ts⟩, rfl, rfl⟩ := List.map_eq_singleton_iff.1 htransfers
  obtain rfl : x = done a := (List.cons.inj hprograms).1
  rfl

section Alone

variable {shared : Shared} {x : Program α} {transfers : List Transfer}

/-- A worker alone is in nobody's way. -/
theorem exists_end (shared : Shared) (x : Program α) (transfers : List Transfer)
    (schedule : List Turn) : ∃ more shared' a transfers',
      (alone shared x transfers).run (schedule ++ more) = alone shared' (done a) transfers' := by
  have hlength := Crew.length_run (alone shared x transfers) schedule
  obtain ⟨w, hw⟩ := List.length_eq_one_iff.1 hlength
  have hworker : ((alone shared x transfers).run schedule).workers[0]? = some w := by
    rw [hw]
    rfl
  obtain ⟨more, shared', a, transfers', hrun⟩ := Crew.exists_done hworker
  refine ⟨more, shared', a, transfers', ?_⟩
  rw [Crew.run_append, hrun, hw]
  rfl

theorem step_alone (shared : Shared) (x : Program α) (transfers : List Transfer) (turn : Turn) :
    ((alone shared x transfers).step turn = alone shared x transfers ∧
        (alone shared x transfers).deed? turn = none) ∨
      ∃ deed x' transfers' shared',
        Worker.step? ⟨x, transfers⟩ shared turn.move = some (deed, ⟨x', transfers'⟩, shared') ∧
        (alone shared x transfers).deed? turn = some (0, deed) ∧
        (alone shared x transfers).step turn = alone shared' x' transfers' := by
  rcases (alone shared x transfers).step_cases turn with hidle |
    ⟨deed, w, ⟨x', transfers'⟩, shared', hw, hstep, hdeed, hnext⟩
  · exact .inl hidle
  · have hzero : turn.worker = 0 := by
      have hlt := (List.getElem?_eq_some_iff.1 hw).1
      simpa [alone] using hlt
    rw [hzero] at hw hdeed hnext
    obtain rfl : ⟨x, transfers⟩ = w := Option.some.inj hw
    exact .inr ⟨deed, x', transfers', shared', hstep, hdeed, hnext⟩

/-- As long as a program is on its way, what comes behind it does not matter. -/
theorem Worker.step?_bind (shared : Shared) (transfers : List Transfer) (f : α → Program β)
    (move : Move) (hx : x.result? = none) :
    Worker.step? ⟨x >>= f, transfers⟩ shared move =
      (Worker.step? ⟨x, transfers⟩ shared move).map fun (deed, w, shared) =>
        (deed, ⟨w.program >>= f, w.transfers⟩, shared) := by
  cases x with
  | done a => cases hx
  | ask r next =>
    cases move with
    | advance =>
      have hbind : Program.ask r next >>= f = .ask r fun answer => next answer >>= f := rfl
      rw [hbind]
      simp only [Worker.step?, Option.map_map]
      rfl
    | transfer ticket =>
      simp only [Worker.step?]
      split <;> rfl

/-- What a program does in its turn does not depend on what comes behind it. -/
theorem step_bind (shared : Shared) (hx : x.result? = none) (transfers : List Transfer)
    (turn : Turn) : ∃ shared₁ x₁ transfers₁,
      (alone shared x transfers).step turn = alone shared₁ x₁ transfers₁ ∧
        ∀ {β : Type} (f : α → Program β),
          (alone shared (x >>= f) transfers).step turn = alone shared₁ (x₁ >>= f) transfers₁ := by
  obtain ⟨worker, move⟩ := turn
  cases worker with
  | succ worker => exact ⟨shared, x, transfers, rfl, fun f => rfl⟩
  | zero =>
    have hbind {β : Type} (f : α → Program β) := Worker.step?_bind shared transfers f move hx
    cases hstep : Worker.step? ⟨x, transfers⟩ shared move with
    | none =>
      rw [hstep] at hbind
      refine ⟨shared, x, transfers, ?_, fun f => ?_⟩ <;>
        simp [Crew.step, Crew.step?, alone, hstep, hbind]
    | some done =>
      obtain ⟨deed, ⟨x₁, transfers₁⟩, shared₁⟩ := done
      rw [hstep] at hbind
      refine ⟨shared₁, x₁, transfers₁, ?_, fun f => ?_⟩ <;>
        simp [Crew.step, Crew.step?, alone, hstep, hbind]

/-- A program with another one behind it comes to its own end first, whatever that other one is. -/
theorem run_bind {f : α → Program β} {b : β} {shared' : Shared} {transfers' : List Transfer}
    {schedule : List Turn} (h : (alone shared (x >>= f) transfers).run schedule =
      alone shared' (done b) transfers') :
    ∃ front back shared₁ a transfers₁, schedule = front ++ back ∧
      (alone shared x transfers).run front = alone shared₁ (done a) transfers₁ ∧
      (∀ {γ : Type} (g : α → Program γ),
        (alone shared (x >>= g) transfers).run front = alone shared₁ (g a) transfers₁) ∧
      (alone shared₁ (f a) transfers₁).run back = alone shared' (done b) transfers' := by
  induction schedule generalizing shared x transfers with
  | nil =>
    cases x with
    | done a => exact ⟨[], [], shared, a, transfers, rfl, rfl, fun g => rfl, h⟩
    | ask r next => cases h
  | cons turn schedule ih =>
    cases x with
    | done a => exact ⟨[], turn :: schedule, shared, a, transfers, rfl, rfl, fun g => rfl, h⟩
    | ask r next =>
      obtain ⟨shared₁, x₁, transfers₁, hfirst, hboth⟩ :=
        step_bind (x := .ask r next) shared rfl transfers turn
      have hrun : (alone shared₁ (x₁ >>= f) transfers₁).run schedule =
          alone shared' (done b) transfers' := by
        rw [← hboth]
        exact h
      obtain ⟨front, back, shared₂, a, transfers₂, rfl, hfront, hothers, hback⟩ := ih hrun
      refine ⟨turn :: front, back, shared₂, a, transfers₂, rfl, ?_, fun g => ?_, hback⟩
      · rw [← hfirst] at hfront
        exact hfront
      · have hg := hothers g
        rw [← hboth] at hg
        exact hg

/-- A program that is at its end stays there. -/
theorem run_done (shared : Shared) (a : α) (transfers : List Transfer) (schedule : List Turn) :
    ∃ shared' transfers',
      (alone shared (done a) transfers).run schedule = alone shared' (done a) transfers' := by
  induction schedule generalizing shared transfers with
  | nil => exact ⟨shared, transfers, rfl⟩
  | cons turn schedule ih =>
    rcases step_alone shared (done a) transfers turn with ⟨hidle, -⟩ |
      ⟨deed, x', transfers', shared', hstep, -, hnext⟩
    · obtain ⟨shared', transfers', hrun⟩ := ih shared transfers
      refine ⟨shared', transfers', ?_⟩
      rw [← hidle] at hrun
      exact hrun
    · have hleads := Worker.leads_of_step? hstep
      obtain ⟨-, hx⟩ := leads_done.1 hleads
      obtain rfl : x' = done a := hx
      obtain ⟨shared'', transfers'', hrun⟩ := ih shared' transfers'
      refine ⟨shared'', transfers'', ?_⟩
      rw [← hnext] at hrun
      exact hrun

end Alone

end StylesheetAssets.Parallel
