import StylesheetAssets.Proofs.Parallel.Following
import StylesheetAssets.Proofs.Parallel.Progress

/-!
Runs that come to their end: the way of each worker through them, and what all of them have done.
-/
namespace StylesheetAssets.Parallel

open Program

variable {α : Type} {config : Config} {outDir : Path}

/-! ### What is handed out, and what is made of it -/

/-- What was handed out is under way until somebody waits for it. -/
theorem mem_underAfter_or_joined {copies : List Pending} {es : List Exchange} {copy : Pending}
    (h : copy ∈ copies ∨ copy ∈ startedIn es) :
    copy ∈ underAfter copies es ∨ ∃ outcome, ⟨.join copy, outcome⟩ ∈ es := by
  induction es generalizing copies with
  | nil => exact .inl (h.resolve_right List.not_mem_nil)
  | cons e es ih =>
    by_cases hjoin : ∃ outcome, e = ⟨.join copy, outcome⟩
    · obtain ⟨outcome, rfl⟩ := hjoin
      exact .inr ⟨outcome, List.mem_cons_self⟩
    · have hnext : copy ∈ e.under copies ∨ copy ∈ startedIn es := by
        obtain ⟨r, answer⟩ := e
        cases r with
        | start source destination =>
          rcases h with h | h
          · exact .inl (List.mem_append_left _ h)
          · rcases List.mem_cons.1 h with rfl | h
            · exact .inl (List.mem_append_right _ (List.mem_singleton_self _))
            · exact .inr h
        | join other =>
          refine h.imp_left fun h => (List.mem_erase_of_ne ?_).2 h
          rintro rfl
          exact hjoin ⟨answer, rfl⟩
        | _ => exact h
      refine (ih hnext).imp_right ?_
      rintro ⟨outcome, hmem⟩
      exact ⟨outcome, List.mem_cons_of_mem e hmem⟩

theorem Fitting.of_mem {earlier es : List Exchange} {e : Exchange} (h : Fitting config earlier es)
    (he : e ∈ es) : e.Fits config (earlier ++ es) := by
  obtain ⟨front, back, rfl⟩ := List.append_of_mem he
  refine h.fits.mono ?_
  rw [← List.append_assoc]
  exact List.subset_append_left _ _

/-- Where all copies were waited for without a failure, all are made. -/
theorem Recorded.exists_ok {es : List Exchange} {transfers : List Transfer}
    (h : Recorded es transfers) (hfitting : Fitting config [] es) (hjoined : underAfter [] es = [])
    {t : Transfer} (ht : t ∈ transfers) : ∃ n, t.outcome? = some (.ok n) := by
  obtain ⟨ticket, hticket⟩ := List.getElem?_of_mem ht
  let copy : Pending := ⟨t.source, t.destination, ticket⟩
  have hcopy : copy ∈ [] ∨ copy ∈ startedIn es := .inr (h.mem_startedIn hticket)
  rcases mem_underAfter_or_joined hcopy with hunder | hmem
  · rw [hjoined] at hunder
    cases hunder
  · obtain ⟨outcome, hmem⟩ := hmem
    obtain ⟨n, rfl⟩ := hfitting.of_mem hmem
    have hmade := h.joined _ _ hmem
    rw [hticket] at hmade
    exact ⟨n, congrArg Transfer.outcome? (Option.some.inj hmade)⟩

/-- A step makes no copy but that of its deed. -/
theorem Worker.mem_transfers_of_step? {w w' : Worker α} {shared shared' : Shared} {move : Move}
    {deed : Deed} {source destination : Path} {outcome : Except DiskError Nat}
    (h : w.step? shared move = some (deed, w', shared')) :
    ⟨source, destination, some outcome⟩ ∈ w'.transfers ↔
      ⟨source, destination, some outcome⟩ ∈ w.transfers ∨
        deed = .copied source destination outcome := by
  rcases step?_cases h with ⟨r, next, answer, transfers, -, hanswer, rfl, rfl⟩ |
    ⟨ticket, source, destination, outcome, hticket, -, -, rfl, rfl⟩
  · have htransfers := Request.transfers_of_answer? hanswer
    cases r with
    | start =>
      obtain ⟨-, rfl⟩ := htransfers
      simp
    | join =>
      obtain ⟨-, rfl⟩ := htransfers
      simp
    | _ =>
      have hkept : transfers = w.transfers := htransfers
      simp [hkept]
  · simp only [List.mem_iff_getElem?, Recorded.getElem?_set hticket]
    constructor
    · rintro ⟨i, ⟨-, heq⟩ | ⟨-, hi⟩⟩
      · cases heq
        exact .inr rfl
      · exact .inl ⟨i, hi⟩
    · rintro (⟨i, hi⟩ | heq)
      · refine ⟨i, .inr ⟨?_, hi⟩⟩
        rintro rfl
        cases hticket.symm.trans hi
      · cases heq
        exact ⟨ticket, .inl ⟨rfl, rfl⟩⟩

namespace Crew

variable {c : Crew α} {i : Nat} {w : Worker α} {deed : Deed}

theorem lt_of_mem_log (c : Crew α) {schedule : List Turn} (h : (i, deed) ∈ c.log schedule) :
    i < c.workers.length := by
  induction schedule generalizing c with
  | nil => cases h
  | cons turn schedule ih =>
    rw [log] at h
    rcases List.mem_append.1 h with h | h
    · rcases c.step_cases turn with ⟨-, hnone⟩ | ⟨deed', w, w', shared, hw, -, hdeed, -⟩
      · rw [hnone] at h
        cases h
      · rw [hdeed] at h
        cases List.mem_singleton.1 h
        exact (List.getElem?_eq_some_iff.1 hw).1
    · have hlt := ih _ h
      rwa [length_step] at hlt

/-- The copies that a worker has made are those that its transfers tell of. -/
theorem copied_mem_log (c : Crew α) (hnew : ∀ w ∈ c.workers, w.transfers = [])
    (schedule : List Turn) {source destination : Path} {outcome : Except DiskError Nat}
    (hw : (c.run schedule).workers[i]? = some w) :
    (i, .copied source destination outcome) ∈ c.log schedule ↔
      ⟨source, destination, some outcome⟩ ∈ w.transfers := by
  induction schedule using List.reverseRecOn generalizing w with
  | nil =>
    rw [hnew w (List.mem_of_getElem? hw)]
    exact iff_of_false List.not_mem_nil List.not_mem_nil
  | append_singleton schedule turn ih =>
    rw [run_concat] at hw
    rw [log_concat, List.mem_append]
    rcases (c.run schedule).step_cases turn with
      ⟨hidle, hnone⟩ | ⟨deed, v, v', shared, hv, hstep, hdeed, hnext⟩
    · rw [hidle] at hw
      simp [hnone, ih hw]
    · rw [hnext] at hw
      by_cases hi : turn.worker = i
      · subst hi
        rw [List.getElem?_set_self (List.getElem?_eq_some_iff.1 hv).1] at hw
        obtain rfl := Option.some.inj hw
        rw [ih hv, hdeed, Worker.mem_transfers_of_step? hstep]
        simp [eq_comm]
      · rw [List.getElem?_set_ne hi] at hw
        rw [ih hw, hdeed]
        simp [Ne.symm hi]

theorem asked_mem_log {log : List (Nat × Deed)} {e : Exchange} :
    (i, .asked e) ∈ log ↔ e ∈ exchangesOf i log := by
  rw [exchangesOf, List.mem_filterMap]
  constructor
  · intro h
    exact ⟨_, h, if_pos rfl⟩
  · rintro ⟨⟨j, deed⟩, hmem, heq⟩
    dsimp only at heq
    split_ifs at heq with hj
    subst hj
    cases deed with
    | asked e' =>
      cases heq
      exact hmem
    | copied => cases heq

end Crew

/-! ### The end of a run -/

/-- What a worker does on its way. -/
def Way.Does (x : Way α) : Deed → Prop
  | .asked e => e ∈ x.exchanges
  | .copied source destination outcome => ⟨source, destination, some outcome⟩ ∈ x.transfers

/-- The workers set out, and under the schedule each of them comes to the end of its way. -/
structure Crew.Finishes (c : Crew α) (schedule : List Turn) (ways : List (Way α)) : Prop where
  starts : c.workers = ways.map fun x => ⟨x.program, []⟩
  ends : (c.run schedule).workers = ways.map fun x => ⟨done x.result, x.transfers⟩
  exchanges : ∀ (i : Nat) (x : Way α), ways[i]? = some x →
    exchangesOf i (c.log schedule) = x.exchanges

namespace Crew

variable {c : Crew α} {schedule : List Turn} {ways : List (Way α)}

theorem exists_done_of_results? {results : List α} (h : c.results? = some results) :
    ∀ w ∈ c.workers, ∃ a, w.program = done a := by
  intro w hw
  have hprogram := List.mem_map_of_mem (f := fun w : Worker α => w.program) hw
  rw [results?_eq_some.1 h] at hprogram
  obtain ⟨a, -, ha⟩ := List.mem_map.1 hprogram
  exact ⟨a, ha.symm⟩

/-- A crew at its end has gone some ways. -/
theorem exists_finishes (hnew : ∀ w ∈ c.workers, w.transfers = [])
    (hdone : ∀ w ∈ (c.run schedule).workers, ∃ a, w.program = done a) :
    ∃ ways, c.Finishes schedule ways := by
  have hlength := c.length_run schedule
  have hways (i : Fin c.workers.length) : ∃ x : Way α, c.workers[i] = ⟨x.program, []⟩ ∧
      (c.run schedule).workers[i] = ⟨done x.result, x.transfers⟩ ∧
      exchangesOf i (c.log schedule) = x.exchanges := by
    have hi : i < (c.run schedule).workers.length := by
      rw [hlength]
      exact i.2
    obtain ⟨a, ha⟩ := hdone _ (List.getElem_mem hi)
    have hfirst := hnew _ (List.getElem_mem i.2)
    refine ⟨⟨c.workers[i].program, exchangesOf i (c.log schedule), a,
      (c.run schedule).workers[i].transfers⟩, ?_, ?_, rfl⟩
    · exact congrArg (Worker.mk _) hfirst
    · exact congrArg (Worker.mk · _) ha
  choose way hstart hend hexchanges using hways
  refine ⟨List.ofFn way, ?_, ?_, fun i x hx => ?_⟩
  · refine List.ext_getElem (by simp) fun i hi _ => ?_
    rw [List.getElem_map, List.getElem_ofFn]
    exact hstart ⟨i, hi⟩
  · refine List.ext_getElem (by simp [hlength]) fun i hi _ => ?_
    rw [List.getElem_map, List.getElem_ofFn]
    exact hend ⟨i, hlength ▸ hi⟩
  · obtain ⟨hi, rfl⟩ := List.getElem?_eq_some_iff.1 hx
    rw [List.getElem_ofFn]
    exact hexchanges ⟨i, by simpa using hi⟩

namespace Finishes

variable {i : Nat} {x : Way α}

theorem worker_eq (h : c.Finishes schedule ways) (hx : ways[i]? = some x) :
    (c.run schedule).workers[i]? = some ⟨done x.result, x.transfers⟩ := by
  rw [h.ends, List.getElem?_map, hx]
  rfl

theorem leads (h : c.Finishes schedule ways) (hx : x ∈ ways) :
    x.program.Leads x.exchanges (done x.result) := by
  obtain ⟨i, hi⟩ := List.getElem?_of_mem hx
  have hstart : c.workers[i]? = some ⟨x.program, []⟩ := by
    rw [h.starts, List.getElem?_map, hi]
    rfl
  obtain ⟨w, hw, hleads⟩ := exists_worker schedule hstart
  rw [h.worker_eq hi] at hw
  rw [← h.exchanges i x hi, ← Option.some.inj hw] at *
  exact hleads

theorem recorded (h : c.Finishes schedule ways) (hx : x ∈ ways)
    (horderly : Orderly [] x.exchanges) : Recorded x.exchanges x.transfers := by
  obtain ⟨i, hi⟩ := List.getElem?_of_mem hx
  have hstart : c.workers[i]? = some ⟨x.program, []⟩ := by
    rw [h.starts, List.getElem?_map, hi]
    rfl
  rw [← h.exchanges i x hi] at horderly ⊢
  exact recorded_run hstart .nil horderly (h.worker_eq hi)

theorem results? (h : c.Finishes schedule ways) :
    (c.run schedule).results? = some (ways.map Way.result) := by
  rw [results?_eq_some, h.ends, List.map_map, List.map_map]
  rfl

/-- The log holds what the workers do on their ways. -/
theorem mem_log (h : c.Finishes schedule ways) {deed : Deed} :
    (i, deed) ∈ c.log schedule ↔ ∃ x, ways[i]? = some x ∧ x.Does deed := by
  have hnew : ∀ w ∈ c.workers, w.transfers = [] := by
    intro w hw
    rw [h.starts] at hw
    obtain ⟨x, -, rfl⟩ := List.mem_map.1 hw
    rfl
  have hdoes {x : Way α} (hx : ways[i]? = some x) : (i, deed) ∈ c.log schedule ↔ x.Does deed := by
    cases deed with
    | asked e => rw [asked_mem_log, h.exchanges i x hx, Way.Does]
    | copied => exact c.copied_mem_log hnew schedule (h.worker_eq hx)
  constructor
  · intro hmem
    have hlt := c.lt_of_mem_log hmem
    rw [h.starts, List.length_map] at hlt
    exact ⟨ways[i], List.getElem?_eq_getElem hlt,
      (hdoes (List.getElem?_eq_getElem hlt)).1 hmem⟩
  · rintro ⟨x, hx, hdeed⟩
    exact (hdoes hx).2 hdeed

theorem mem_actsOf (h : c.Finishes schedule ways) {a : Act} :
    a ∈ actsOf (c.log schedule) ↔ ∃ x ∈ ways, ∃ deed, x.Does deed ∧ deed.act? = some a := by
  rw [actsOf, List.mem_filterMap]
  constructor
  · rintro ⟨⟨i, deed⟩, hmem, hact⟩
    obtain ⟨x, hx, hdeed⟩ := h.mem_log.1 hmem
    exact ⟨x, List.mem_of_getElem? hx, deed, hdeed, hact⟩
  · rintro ⟨x, hx, deed, hdeed, hact⟩
    obtain ⟨i, hi⟩ := List.getElem?_of_mem hx
    exact ⟨(i, deed), h.mem_log.2 ⟨x, hi, hdeed⟩, hact⟩

theorem mem_claimsOf (h : c.Finishes schedule ways) {r : CopyRequest} :
    r ∈ claimsOf (c.log schedule) ↔ ∃ x ∈ ways, ∃ e ∈ x.exchanges, e.claimed? = some r := by
  rw [claimsOf, List.mem_filterMap]
  constructor
  · rintro ⟨⟨i, deed⟩, hmem, hclaim⟩
    obtain ⟨x, hx, hdeed⟩ := h.mem_log.1 hmem
    cases deed with
    | asked e => exact ⟨x, List.mem_of_getElem? hx, e, hdeed, hclaim⟩
    | copied => cases hclaim
  · rintro ⟨x, hx, e, he, hclaim⟩
    obtain ⟨i, hi⟩ := List.getElem?_of_mem hx
    exact ⟨(i, .asked e), h.mem_log.2 ⟨x, hi, he⟩, hclaim⟩

end Finishes

end Crew

/-! ### Coming to the same end again -/

variable {written : Location → Prop} {before after : Disk}

/-- At the end of its way a worker has made all copies, as they were made before. -/
theorem OnWay.transfers_eq {x : Way α} {w : Worker α} (h : OnWay x x.exchanges w)
    (hx : x.Sound config outDir written before after) : w.transfers = x.transfers := by
  refine List.ext_getElem? fun i => ?_
  cases hi : w.transfers[i]? with
  | none =>
    cases hi' : x.transfers[i]? with
    | none => rfl
    | some t =>
      obtain ⟨outcome?, hsame⟩ := hx.recorded.exists_of_started h.recorded List.prefix_rfl hi'
      rw [hi] at hsame
      cases hsame
  | some t =>
    obtain ⟨outcome?, hsame⟩ := h.getElem?_transfers hx.recorded hi
    rcases h.outcomes i t _ hi hsame with hnone | houtcome
    · have hunder := h.recorded.unmade i t hi hnone
      rw [hx.joined] at hunder
      cases hunder
    · dsimp only at houtcome
      rw [hsame, ← houtcome]

/-- Workers that are on their ways, and at their ends, have come to the ends of their ways. -/
theorem Crew.Finishes.of_along {c : Crew α} {schedule : List Turn} {ways : List (Way α)}
    (hworkers : c.workers = ways.map fun x => ⟨x.program, []⟩)
    (halong : (c.run schedule).Along config outDir written before after ways (c.log schedule))
    (hways : ∀ x ∈ ways, x.Sound config outDir written before after)
    (hdone : ∀ w ∈ (c.run schedule).workers, ∃ a, w.program = done a) :
    c.Finishes schedule ways := by
  have hlength : (c.run schedule).workers.length = ways.length := by
    rw [c.length_run, hworkers, List.length_map]
  have hend {i : Nat} {x : Way α} (hx : ways[i]? = some x) :
      (c.run schedule).workers[i]? = some ⟨done x.result, x.transfers⟩ ∧
        exchangesOf i (c.log schedule) = x.exchanges := by
    have hi : i < (c.run schedule).workers.length :=
      hlength ▸ (List.getElem?_eq_some_iff.1 hx).1
    obtain ⟨a, ha⟩ := hdone _ (List.getElem_mem hi)
    have hw := List.getElem?_eq_getElem hi
    obtain ⟨rfl, hexchanges⟩ := halong.result_eq hways hw hx ha
    obtain ⟨y, hy, hon, -⟩ := halong.workers i _ hw
    obtain rfl := Option.some.inj (hx.symm.trans hy)
    rw [hexchanges] at hon
    refine ⟨?_, hexchanges⟩
    rw [hw, ← hon.transfers_eq (hways x (List.mem_of_getElem? hx)), ← ha]
  refine ⟨hworkers, List.ext_getElem? fun i => ?_, fun i x hx => (hend hx).2⟩
  rw [List.getElem?_map]
  cases hx : ways[i]? with
  | none =>
    have hge := List.getElem?_eq_none_iff.1 hx
    rw [← hlength] at hge
    rw [List.getElem?_eq_none hge]
    rfl
  | some x => exact (hend hx).1

end StylesheetAssets.Parallel
