import StylesheetAssets.Proofs.Copy.Advancing
import StylesheetAssets.Proofs.Copy.Claims

/-!
Queues that share one registry and ask for copies in any order. What a queue holds already it does
not claim again, so the registry sees a part of the requests. That part still shows which
destinations are contested, but how often they change hands depends on the order.
-/
namespace StylesheetAssets

namespace CopyQueue

/-- The very copy is in the queue. -/
def holds (q : CopyQueue) (source destination : Path) : Bool :=
  (q.find? destination).any fun found => found.1.source.same source

theorem exists_of_holds {q : CopyQueue} {source destination : Path}
    (h : q.holds source destination = true) :
    ∃ copy ∈ q.copies, copy.source.components = source.components ∧
      copy.destination.components = destination.components := by
  obtain ⟨⟨copy, place⟩, hfind, hsource⟩ := (Option.any_eq_true _ _).1 h
  obtain ⟨hplace, hdestination⟩ := find?_spec hfind
  exact ⟨copy, List.mem_of_getElem? hplace, of_decide_eq_true hsource,
    of_decide_eq_true hdestination⟩

section Request

variable {source destination : Path} {w : CopyQueue × Session}

theorem request_of_holds (h : w.1.holds source destination = true) :
    (request source destination).exec w = (.ok (), w) := by
  obtain ⟨⟨copy, place⟩, hfind, hsource⟩ := (Option.any_eq_true _ _).1 h
  have hsame : copy.source.same source = true := hsource
  unfold request
  rw [Copying.exec_bind, Copying.exec_get]
  simp only [hfind, hsame]
  rfl

/-- All other requests are claims, whatever comes of them. -/
theorem request_of_not_holds (h : w.1.holds source destination = false) :
    ((request source destination).exec w).2.1.registry =
        (w.1.registry.claim source destination).2 ∧
      ∀ copy ∈ ((request source destination).exec w).2.1.copies,
        copy ∈ w.1.copies ∨ copy.source = source ∧ copy.destination = destination := by
  obtain ⟨w₁, hclaim, hclaimed, -⟩ := exec_claim source destination w
  unfold request
  rw [Copying.exec_bind, Copying.exec_get]
  dsimp only
  split
  · next copy place hfind =>
    have hsource : copy.source.same source = false := by
      have hnone := h
      rw [holds, hfind] at hnone
      exact hnone
    have hsubset : swapRemove w.1.copies place ⊆ w.1.copies := fun c hc =>
      (perm_swapRemove (find?_spec hfind).1).mem_iff.2 (List.mem_cons_of_mem _ hc)
    rw [hsource, Bool.not_false, if_pos rfl, Copying.exec_bind, hclaim]
    dsimp only
    rw [Copying.exec_bind, exec_settle, hclaimed]
    cases copy.finish with
    | error e => exact ⟨rfl, fun c hc => .inl (hsubset hc)⟩
    | ok n =>
      obtain ⟨w₂, hstart, hqueue, -⟩ := exec_start source destination
        ({ registry := (w.1.registry.claim source destination).2,
           copies := swapRemove w.1.copies place }, w₁.2)
      dsimp only [Except.map]
      rw [hstart, hqueue]
      refine ⟨rfl, fun c hc => ?_⟩
      rcases List.mem_append.1 hc with hc | hc
      · exact .inl (hsubset hc)
      · obtain rfl := List.mem_singleton.1 hc
        exact .inr ⟨rfl, rfl⟩
  · rw [Copying.exec_bind, hclaim]
    obtain ⟨w₂, hstart, hqueue, -⟩ := exec_start source destination w₁
    dsimp only
    rw [hstart, hqueue, hclaimed]
    refine ⟨rfl, fun c hc => ?_⟩
    rcases List.mem_append.1 hc with hc | hc
    · exact .inl hc
    · obtain rfl := List.mem_singleton.1 hc
      exact .inr ⟨rfl, rfl⟩

end Request

end CopyQueue

/-! ### Several queues -/

/-- Queues by name. They share a registry and a disk. -/
structure SharedQueues (ι : Type) where
  registry : CopyRegistry := {}
  copies : ι → List Copy := fun _ => []
  session : Session

/-- What one of the queues is asked for. -/
abbrev QueuedRequest (ι : Type) := ι × CopyRequest

namespace SharedQueues

variable {ι : Type} [DecidableEq ι]

def queue (s : SharedQueues ι) (i : ι) : CopyQueue := ⟨s.registry, s.copies i⟩

/-- One queue asks for a copy, which may fail. -/
def step (s : SharedQueues ι) (r : QueuedRequest ι) : SharedQueues ι :=
  let (_, queue, session) :=
    (CopyQueue.request r.2.source r.2.destination).exec (s.queue r.1, s.session)
  ⟨queue.registry, Function.update s.copies r.1 queue.copies, session⟩

def run (s : SharedQueues ι) (requests : List (QueuedRequest ι)) : SharedQueues ι :=
  requests.foldl step s

/-- The requests that the queues pass on to the registry. -/
def claims (s : SharedQueues ι) : List (QueuedRequest ι) → List CopyRequest
  | [] => []
  | r :: rest =>
    (if (s.queue r.1).holds r.2.source r.2.destination = true then [] else [r.2]) ++
      (s.step r).claims rest

theorem step_of_holds {s : SharedQueues ι} {r : QueuedRequest ι}
    (h : (s.queue r.1).holds r.2.source r.2.destination = true) : s.step r = s := by
  have hrequest := CopyQueue.request_of_holds (w := (s.queue r.1, s.session)) h
  unfold step
  rw [hrequest]
  simp [queue]

theorem registry_run (s : SharedQueues ι) (requests : List (QueuedRequest ι)) :
    (s.run requests).registry = s.registry.claimAll (s.claims requests) := by
  induction requests generalizing s with
  | nil => rfl
  | cons r rest ih =>
    have hrun : s.run (r :: rest) = (s.step r).run rest := rfl
    rw [hrun, ih, claims]
    cases hholds : (s.queue r.1).holds r.2.source r.2.destination with
    | true => rw [step_of_holds hholds, if_pos rfl, List.nil_append]
    | false =>
      have hclaimed := (CopyQueue.request_of_not_holds (w := (s.queue r.1, s.session)) hholds).1
      have hregistry : (s.step r).registry = (s.registry.claim r.2.source r.2.destination).2 :=
        hclaimed
      rw [if_neg (by simp), hregistry]
      rfl

/-- Every copy in a queue was claimed before. -/
def Claimed (s : SharedQueues ι) (claims : List CopyRequest) : Prop :=
  ∀ i, ∀ copy ∈ s.copies i,
    copy.source.components ∈ sourcesOf claims copy.destination.components

theorem Claimed.step {s : SharedQueues ι} {before : List CopyRequest} {r : QueuedRequest ι}
    (h : s.Claimed before) (hholds : (s.queue r.1).holds r.2.source r.2.destination = false) :
    (s.step r).Claimed (before ++ [r.2]) := by
  have hcopies := (CopyQueue.request_of_not_holds (w := (s.queue r.1, s.session)) hholds).2
  have hkept {copy : Copy} {i : ι} (hcopy : copy ∈ s.copies i) :
      copy.source.components ∈ sourcesOf (before ++ [r.2]) copy.destination.components := by
    rw [sourcesOf_concat]
    exact List.mem_append_left _ (h i copy hcopy)
  intro i copy hcopy
  by_cases hi : i = r.1
  · subst hi
    have hcopy' : copy ∈ ((CopyQueue.request r.2.source r.2.destination).exec
        (s.queue r.1, s.session)).2.1.copies := by
      simpa [SharedQueues.step] using hcopy
    rcases hcopies copy hcopy' with hold | ⟨hsource, hdestination⟩
    · exact hkept hold
    · rw [sourcesOf_concat, hsource, hdestination, if_pos rfl]
      exact List.mem_append_right _ (List.mem_singleton_self _)
  · refine hkept (i := i) ?_
    simpa [SharedQueues.step, hi] using hcopy

/-- The registry hears of every source of every destination. -/
theorem Claimed.sources_iff {s : SharedQueues ι} {before : List CopyRequest}
    (h : s.Claimed before) (requests : List (QueuedRequest ι)) (d a : List Component) :
    a ∈ sourcesOf (before ++ s.claims requests) d ↔
      a ∈ sourcesOf (before ++ requests.map (·.2)) d := by
  induction requests generalizing s before with
  | nil => rfl
  | cons r rest ih =>
    rw [claims, List.map_cons]
    cases hholds : (s.queue r.1).holds r.2.source r.2.destination with
    | false =>
      have hrest := ih (h.step hholds)
      rwa [List.append_assoc, List.append_assoc] at hrest
    | true =>
      rw [if_pos rfl, List.nil_append, step_of_holds hholds, ih h]
      obtain ⟨copy, hcopy, hsource, hdestination⟩ := CopyQueue.exists_of_holds hholds
      -- What the queue holds was claimed, so the registry knows this source.
      have hknown := h r.1 copy hcopy
      rw [hsource, hdestination] at hknown
      rw [List.append_cons before r.2]
      simp only [sourcesOf_append, List.mem_append]
      constructor
      · rintro (ha | ha)
        · exact .inl (.inl ha)
        · exact .inr ha
      · rintro ((ha | ha) | ha)
        · exact .inl ha
        · obtain ⟨r', hr', rfl, rfl⟩ := mem_sourcesOf.1 ha
          rw [List.mem_singleton.1 hr']
          exact .inl hknown
        · exact .inr ha

/-- The claims contest the same destinations as the requests. -/
theorem contested_claims (session : Session) (requests : List (QueuedRequest ι)) :
    contested (claims { session } requests) = contested (requests.map (·.2)) := by
  have hempty : Claimed ({ session } : SharedQueues ι) [] := fun i copy hcopy => by cases hcopy
  refine contested_congr fun d a => ?_
  have hsources := hempty.sources_iff requests d a
  rwa [List.nil_append, List.nil_append] at hsources

/-- Queues that start empty and share a registry, with two orders of their requests that agree for
each queue. The counter is the number of handovers among the claims. It is never less than the
number of contested destinations, which does not depend on the order, and the same number just if
no destination changes hands twice; in particular it is zero in one order just if it is in the
other. -/
theorem conflicts_run {requests other : List (QueuedRequest ι)}
    (h : ∀ i, requests.filter (·.1 = i) = other.filter (·.1 = i)) (session session' : Session) :
    let conflicts := (run { session } requests).registry.conflicts
    let handed (d : List Component) := handovers (sourcesOf (claims { session } requests) d)
    conflicts = ∑ d ∈ contested (requests.map (·.2)), handed d ∧
      (contested (requests.map (·.2))).card ≤ conflicts ∧
      (conflicts = (contested (requests.map (·.2))).card ↔ ∀ d, handed d ≤ 1) ∧
      (conflicts = 0 ↔ contested (requests.map (·.2)) = ∅) ∧
      contested (requests.map (·.2)) = contested (other.map (·.2)) ∧
      (conflicts = 0 ↔ (run { session := session' } other).registry.conflicts = 0) := by
  have hmem (r : QueuedRequest ι) : r ∈ requests ↔ r ∈ other := by
    have hqueue : r ∈ requests.filter (·.1 = r.1) ↔ r ∈ other.filter (·.1 = r.1) := by rw [h]
    simpa using hqueue
  have hother : contested (requests.map (·.2)) = contested (other.map (·.2)) := by
    refine contested_congr fun d a => ?_
    simp only [mem_sourcesOf, List.mem_map, hmem]
  have hzero (session : Session) (l : List (QueuedRequest ι)) :
      (run { session } l).registry.conflicts = 0 ↔ contested (l.map (·.2)) = ∅ := by
    rw [registry_run, CopyRegistry.conflicts_eq_zero_iff, contested_claims]
  dsimp only
  refine ⟨?_, ?_, ?_, hzero session requests, hother, ?_⟩
  · rw [registry_run, CopyRegistry.conflicts_claimAll, contested_claims]
  · rw [registry_run, ← contested_claims session]
    exact CopyRegistry.card_contested_le _
  · rw [registry_run, ← contested_claims session]
    exact CopyRegistry.conflicts_eq_card_iff _
  · rw [hzero, hzero, hother]

/-- Three queues: the second one takes the destination from the first, and the third takes it
back. -/
def backAndForth : List (QueuedRequest (Fin 3)) :=
  [(0, ⟨⟨"/a"⟩, ⟨"/x"⟩⟩), (1, ⟨⟨"/b"⟩, ⟨"/x"⟩⟩), (2, ⟨⟨"/a"⟩, ⟨"/x"⟩⟩)]

/-- The same requests, the second queue being the last. -/
def handedOnce : List (QueuedRequest (Fin 3)) :=
  [(0, ⟨⟨"/a"⟩, ⟨"/x"⟩⟩), (2, ⟨⟨"/a"⟩, ⟨"/x"⟩⟩), (1, ⟨⟨"/b"⟩, ⟨"/x"⟩⟩)]

/-- One contested destination is counted twice in one order, and once in another. -/
theorem conflicts_run_backAndForth :
    (∀ i, backAndForth.filter (·.1 = i) = handedOnce.filter (·.1 = i)) ∧
      (contested (backAndForth.map (·.2))).card = 1 ∧
      (run { session := ⟨{}, #[]⟩ } backAndForth).registry.conflicts = 2 ∧
      (run { session := ⟨{}, #[]⟩ } handedOnce).registry.conflicts = 1 ∧
      contested (backAndForth.map (·.2)) = contested (handedOnce.map (·.2)) := by
  have horder : ∀ i, backAndForth.filter (·.1 = i) = handedOnce.filter (·.1 = i) := by
    decide +kernel
  obtain ⟨-, -, -, -, hcontested, -⟩ := conflicts_run horder ⟨{}, #[]⟩ ⟨{}, #[]⟩
  exact ⟨horder, by decide +kernel, by decide +kernel, by decide +kernel, hcontested⟩

end SharedQueues

end StylesheetAssets
