import StylesheetAssets.Proofs.Parallel.History

/-!
Runs of a crew: what is done in them, and what of it one of the workers has done.
-/
namespace StylesheetAssets.Parallel

open Program

variable {α β : Type}

namespace Crew

variable {c c' : Crew α} {turn : Turn} {schedule more : List Turn} {deed : Deed}

theorem step?_eq_some : c.step? turn = some (deed, c') ↔
    ∃ w w' shared, c.workers[turn.worker]? = some w ∧
      w.step? c.shared turn.move = some (deed, w', shared) ∧
      c' = ⟨shared, c.workers.set turn.worker w'⟩ := by
  unfold step?
  cases c.workers[turn.worker]? with
  | none => simp
  | some w =>
    cases hstep : w.step? c.shared turn.move with
    | none => simp [hstep]
    | some r =>
      obtain ⟨deed', w', shared⟩ := r
      simp [hstep, eq_comm]

/-- What is done in a turn, and by whom. -/
def deed? (c : Crew α) (turn : Turn) : Option (Nat × Deed) :=
  (c.step? turn).map fun r => (turn.worker, r.1)

/-- What is done under a schedule, one after the other. -/
def log (c : Crew α) : List Turn → List (Nat × Deed)
  | [] => []
  | turn :: schedule => (c.deed? turn).toList ++ (c.step turn).log schedule

theorem run_append (c : Crew α) (schedule more : List Turn) :
    c.run (schedule ++ more) = (c.run schedule).run more := List.foldl_append

theorem run_concat (c : Crew α) (schedule : List Turn) (turn : Turn) :
    c.run (schedule ++ [turn]) = (c.run schedule).step turn := run_append c schedule [turn]

theorem log_append (c : Crew α) (schedule more : List Turn) :
    c.log (schedule ++ more) = c.log schedule ++ (c.run schedule).log more := by
  induction schedule generalizing c with
  | nil => rfl
  | cons turn schedule ih =>
    rw [List.cons_append, log, log, ih, List.append_assoc]
    rfl

theorem log_concat (c : Crew α) (schedule : List Turn) (turn : Turn) :
    c.log (schedule ++ [turn]) = c.log schedule ++ ((c.run schedule).deed? turn).toList := by
  rw [log_append, log, log, List.append_nil]

/-- A turn passes without effect, or a worker does something. -/
theorem step_cases (c : Crew α) (turn : Turn) :
    (c.step turn = c ∧ c.deed? turn = none) ∨
      ∃ deed w w' shared, c.workers[turn.worker]? = some w ∧
        w.step? c.shared turn.move = some (deed, w', shared) ∧
        c.deed? turn = some (turn.worker, deed) ∧
        c.step turn = ⟨shared, c.workers.set turn.worker w'⟩ := by
  unfold step deed?
  cases hstep : c.step? turn with
  | none => exact .inl ⟨rfl, rfl⟩
  | some r =>
    obtain ⟨deed, c'⟩ := r
    obtain ⟨w, w', shared, hw, hdeed, rfl⟩ := step?_eq_some.1 hstep
    exact .inr ⟨deed, w, w', shared, hw, hdeed, rfl, rfl⟩

end Crew

def exchangesOf (worker : Nat) (log : List (Nat × Deed)) : List Exchange :=
  log.filterMap fun (i, deed) => if i = worker then deed.exchange? else none

theorem exchangesOf_append (worker : Nat) (log more : List (Nat × Deed)) :
    exchangesOf worker (log ++ more) = exchangesOf worker log ++ exchangesOf worker more :=
  List.filterMap_append

theorem exchangesOf_self (worker : Nat) (deed : Deed) :
    exchangesOf worker [(worker, deed)] = deed.exchange?.toList := by
  cases deed with
  | asked e => simp [exchangesOf, Deed.exchange?]
  | copied => simp [exchangesOf, Deed.exchange?]

theorem exchangesOf_copied (worker i : Nat) (source destination : Path)
    (outcome : Except DiskError Nat) :
    exchangesOf worker [(i, .copied source destination outcome)] = [] := by
  simp [exchangesOf, Deed.exchange?]

theorem exchangesOf_other {worker i : Nat} (deed : Deed) (h : i ≠ worker) :
    exchangesOf worker [(i, deed)] = [] := by
  simp [exchangesOf, h]

namespace Worker

variable {w w' : Worker α} {shared shared' : Shared} {move : Move} {deed : Deed}

theorem leads_of_step? (h : w.step? shared move = some (deed, w', shared')) :
    w.program.Leads deed.exchange?.toList w'.program := by
  rcases step?_cases h with ⟨r, next, answer, transfers, hprogram, -, rfl, rfl⟩ |
    ⟨ticket, source, destination, outcome, -, -, -, rfl, rfl⟩
  · rw [hprogram]
    exact .cons (.nil _)
  · exact .nil _

end Worker

namespace Crew

variable {c : Crew α} {worker : Nat} {w w' : Worker α} {schedule : List Turn} {es : List Exchange}

/-- What one turn makes of one of the workers. -/
theorem worker_step (turn : Turn) (hw : c.workers[worker]? = some w) :
    ∃ w', (c.step turn).workers[worker]? = some w' ∧
      ((exchangesOf worker (c.deed? turn).toList = [] ∧ w' = w) ∨
        ∃ deed move shared, w.step? c.shared move = some (deed, w', shared) ∧
          exchangesOf worker (c.deed? turn).toList = deed.exchange?.toList) := by
  rcases c.step_cases turn with ⟨hstep, hdeed⟩ | ⟨deed, v, v', shared, hv, hstep, hdeed, hnext⟩
  · exact ⟨w, by rw [hstep, hw], .inl ⟨by rw [hdeed]; rfl, rfl⟩⟩
  · rw [hnext, hdeed, Option.toList_some]
    by_cases hworker : turn.worker = worker
    · rw [hworker] at hv ⊢
      obtain rfl : v = w := Option.some.inj (hv.symm.trans hw)
      have hlt := (List.getElem?_eq_some_iff.1 hw).1
      exact ⟨v', List.getElem?_set_self hlt,
        .inr ⟨deed, turn.move, shared, hstep, exchangesOf_self worker deed⟩⟩
    · rw [List.getElem?_set_ne hworker]
      exact ⟨w, hw, .inl ⟨exchangesOf_other deed hworker, rfl⟩⟩

theorem exists_worker (schedule : List Turn) (hw : c.workers[worker]? = some w) :
    ∃ w', (c.run schedule).workers[worker]? = some w' ∧
      w.program.Leads (exchangesOf worker (c.log schedule)) w'.program := by
  induction schedule generalizing c w with
  | nil => exact ⟨w, hw, .nil _⟩
  | cons turn schedule ih =>
    obtain ⟨v, hv, hstep⟩ := worker_step turn hw
    obtain ⟨w', hw', hleads⟩ := ih hv
    refine ⟨w', hw', ?_⟩
    rw [log, exchangesOf_append]
    rcases hstep with ⟨hnone, rfl⟩ | ⟨deed, move, shared, hstep, hdeed⟩
    · rwa [hnone]
    · rw [hdeed]
      exact (Worker.leads_of_step? hstep).trans hleads

/-- A record is kept, as long as everything is in order. -/
theorem recorded_run (hw : c.workers[worker]? = some w) (hes : Recorded es w.transfers)
    (horder : Orderly [] (es ++ exchangesOf worker (c.log schedule)))
    (hw' : (c.run schedule).workers[worker]? = some w') :
    Recorded (es ++ exchangesOf worker (c.log schedule)) w'.transfers := by
  induction schedule generalizing c w es with
  | nil =>
    obtain rfl : w = w' := Option.some.inj (hw.symm.trans hw')
    rwa [log, exchangesOf, List.filterMap_nil, List.append_nil]
  | cons turn schedule ih =>
    obtain ⟨v, hv, hstep⟩ := worker_step turn hw
    rw [log, exchangesOf_append, ← List.append_assoc] at horder ⊢
    have hfirst := (orderly_append.1 horder).1
    refine ih hv ?_ horder hw'
    rcases hstep with ⟨hnone, rfl⟩ | ⟨deed, move, shared, hstep, hdeed⟩
    · rwa [hnone, List.append_nil]
    · rw [hdeed] at hfirst ⊢
      exact hes.step hstep hfirst

end Crew

end StylesheetAssets.Parallel
