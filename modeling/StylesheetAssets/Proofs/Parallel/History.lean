import StylesheetAssets.Parallel.Crew
import StylesheetAssets.Proofs.Parallel.Requesting

/-!
What a worker has asked for, beside the copies that it has handed out.

A copy that is not made yet is under way; of two copies to one destination the earlier one is made
before the later one is handed out.
-/
namespace StylesheetAssets.Parallel

open Program

variable {α : Type}

/-! ### Steps -/

/-- A step is a request that is answered, or a transfer that is made. -/
theorem Worker.step?_cases {w w' : Worker α} {shared shared' : Shared} {move : Move} {deed : Deed}
    (h : w.step? shared move = some (deed, w', shared')) :
    (∃ r next answer transfers, w.program = .ask r next ∧
      r.answer? w.transfers shared = some (answer, transfers, shared') ∧
      deed = .asked ⟨r, answer⟩ ∧ w' = ⟨next answer, transfers⟩) ∨
    ∃ ticket source destination outcome, w.transfers[ticket]? = some ⟨source, destination, none⟩ ∧
      Session.copyFile source destination shared.session = (outcome, shared'.session) ∧
      shared'.registry = shared.registry ∧ deed = .copied source destination outcome ∧
      w' = ⟨w.program, w.transfers.set ticket ⟨source, destination, some outcome⟩⟩ := by
  cases move with
  | advance =>
    rw [step?] at h
    cases hprogram : w.program with
    | done a =>
      rw [hprogram] at h
      cases h
    | ask r next =>
      rw [hprogram] at h
      obtain ⟨⟨answer, transfers, later⟩, hanswer, heq⟩ := Option.map_eq_some_iff.1 h
      cases heq
      exact .inl ⟨r, next, answer, transfers, rfl, hanswer, rfl, rfl⟩
  | transfer ticket =>
    rw [step?] at h
    split at h
    · next source destination hticket =>
      cases h
      exact .inr ⟨ticket, source, destination, _, hticket, rfl, rfl, rfl, rfl⟩
    · cases h

/-- What a request does to the transfers. -/
theorem Request.transfers_of_answer? {r : Request} {answer : r.Answer}
    {transfers transfers' : List Transfer} {shared shared' : Shared}
    (h : r.answer? transfers shared = some (answer, transfers', shared')) :
    match r, answer with
    | .start source destination, ticket =>
      ticket = transfers.length ∧ transfers' = transfers ++ [{ source, destination }]
    | .join copy, outcome =>
      outcomeAt transfers copy.ticket = some outcome ∧ transfers' = transfers
    | _, _ => transfers' = transfers := by
  cases r with
  | start =>
    cases h
    exact ⟨rfl, rfl⟩
  | join copy =>
    obtain ⟨outcome, houtcome, heq⟩ := Option.map_eq_some_iff.1 h
    cases heq
    exact ⟨houtcome, rfl⟩
  | _ =>
    cases h
    rfl

namespace Deed

def exchange? : Deed → Option Exchange
  | asked exchange => some exchange
  | copied .. => none

end Deed

/-! ### Records -/

/-- The copy that an exchange hands out. -/
def Exchange.started? : Exchange → Option Pending
  | ⟨.start source destination, ticket⟩ => some ⟨source, destination, ticket⟩
  | _ => none

/-- The copies that were handed out, in their order. -/
def startedIn (es : List Exchange) : List Pending := es.filterMap Exchange.started?

/-- The exchanges of a worker, from the first one on, beside its transfers. -/
structure Recorded (es : List Exchange) (transfers : List Transfer) : Prop where
  started : startedIn es = transfers.mapIdx fun ticket t => ⟨t.source, t.destination, ticket⟩
  joined : ∀ copy outcome, ⟨.join copy, outcome⟩ ∈ es →
    transfers[copy.ticket]? = some ⟨copy.source, copy.destination, some outcome⟩
  unmade : ∀ (ticket : Nat) (t : Transfer), transfers[ticket]? = some t → t.outcome? = none →
    ⟨t.source, t.destination, ticket⟩ ∈ underAfter [] es
  known : ∀ copy ∈ underAfter [] es, ∃ outcome?,
    transfers[copy.ticket]? = some ⟨copy.source, copy.destination, outcome?⟩
  ordered : ∀ (i j : Nat) (t t' : Transfer), i < j →
    transfers[i]? = some t → transfers[j]? = some t' →
    t.destination.same t'.destination = true → t.outcome? ≠ none
  latest : ∀ copy ∈ underAfter [] es, ∀ (j : Nat) (t : Transfer), copy.ticket < j →
    transfers[j]? = some t → t.destination.same copy.destination = false

namespace Recorded

variable {es : List Exchange} {transfers : List Transfer}

theorem nil : Recorded [] [] := by
  refine ⟨rfl, ?_, ?_, ?_, ?_, ?_⟩ <;> simp [underAfter]

/-- An exchange that has nothing to do with copies under way. -/
theorem aside (h : Recorded es transfers) {e : Exchange} (hstarted : e.started? = none)
    (hjoin : ∀ copy outcome, e ≠ ⟨.join copy, outcome⟩) : Recorded (es ++ [e]) transfers := by
  have hunder : underAfter [] (es ++ [e]) = underAfter [] es := by
    rw [underAfter_append]
    obtain ⟨r, answer⟩ := e
    cases r with
    | start => cases hstarted
    | join copy => exact absurd rfl (hjoin copy answer)
    | _ => rfl
  refine ⟨?_, fun copy outcome hmem => ?_, ?_, ?_, h.ordered, ?_⟩
  · rw [startedIn, List.filterMap_append, List.filterMap_cons_none hstarted]
    exact (List.append_nil _).trans h.started
  · rcases List.mem_append.1 hmem with hmem | hmem
    · exact h.joined copy outcome hmem
    · exact absurd (List.mem_singleton.1 hmem).symm (hjoin copy outcome)
  · rw [hunder]
    exact h.unmade
  · rw [hunder]
    exact h.known
  · rw [hunder]
    exact h.latest

section Start

variable {source destination : Path}

theorem getElem?_concat {t t' : Transfer} {i : Nat} :
    (transfers ++ [t])[i]? = some t' ↔
      transfers[i]? = some t' ∨ i = transfers.length ∧ t' = t := by
  rw [List.getElem?_append]
  split_ifs with hi
  · simp [hi.ne]
  · have hnone : transfers[i]? = none := List.getElem?_eq_none (Nat.le_of_not_lt hi)
    rw [hnone, List.getElem?_singleton]
    split_ifs with hzero
    · have hlength : i = transfers.length := by omega
      simp [hlength, eq_comm]
    · have hlength : i ≠ transfers.length := by omega
      simp [hlength]

/-- A copy is handed out. -/
theorem start (h : Recorded es transfers)
    (hfree : ∀ c ∈ underAfter [] es, c.destination.same destination = false) :
    Recorded (es ++ [⟨.start source destination, transfers.length⟩])
      (transfers ++ [⟨source, destination, none⟩]) := by
  have hunder : underAfter [] (es ++ [⟨.start source destination, transfers.length⟩]) =
      underAfter [] es ++ [⟨source, destination, transfers.length⟩] := underAfter_append [] es _
  refine ⟨?_, fun copy outcome hmem => ?_, fun i t hi hnone => ?_, fun copy hcopy => ?_,
    fun i j t t' hij hi hj hsame => ?_, fun copy hcopy j t hj ht => ?_⟩
  · rw [startedIn, List.filterMap_append, List.mapIdx_append, ← h.started]
    simp [startedIn, Exchange.started?]
  · have hmem : ⟨.join copy, outcome⟩ ∈ es := by simpa using hmem
    exact getElem?_concat.2 (.inl (h.joined copy outcome hmem))
  · rw [hunder]
    rcases getElem?_concat.1 hi with hi | ⟨rfl, rfl⟩
    · exact List.mem_append_left _ (h.unmade i t hi hnone)
    · exact List.mem_append_right _ (List.mem_singleton_self _)
  · rw [hunder] at hcopy
    rcases List.mem_append.1 hcopy with hcopy | hcopy
    · obtain ⟨outcome?, ht⟩ := h.known copy hcopy
      exact ⟨outcome?, getElem?_concat.2 (.inl ht)⟩
    · rw [List.mem_singleton.1 hcopy]
      exact ⟨none, getElem?_concat.2 (.inr ⟨rfl, rfl⟩)⟩
  · rcases getElem?_concat.1 hi with hi | ⟨rfl, rfl⟩
    · rcases getElem?_concat.1 hj with hj | ⟨rfl, rfl⟩
      · exact h.ordered i j t t' hij hi hj hsame
      · intro hnone
        have hne := hfree _ (h.unmade i t hi hnone)
        exact ne_true_of_eq_false hne hsame
    · rcases getElem?_concat.1 hj with hj | ⟨rfl, -⟩
      · have hlt := (List.getElem?_eq_some_iff.1 hj).1
        omega
      · omega
  · rw [hunder] at hcopy
    rcases List.mem_append.1 hcopy with hcopy | hcopy
    · rcases getElem?_concat.1 ht with ht | ⟨rfl, rfl⟩
      · exact h.latest copy hcopy j t hj ht
      · exact eq_false_of_ne_true fun hsame =>
          absurd (same_symm hsame) (ne_true_of_eq_false (hfree copy hcopy))
    · have hbehind : transfers.length < j := by
        rw [List.mem_singleton.1 hcopy] at hj
        exact hj
      have hlt := (List.getElem?_eq_some_iff.1 ht).1
      simp only [List.length_append, List.length_singleton] at hlt
      omega

end Start

/-- A copy is waited for. -/
theorem join (h : Recorded es transfers) {copy : Pending} {outcome : Except DiskError Nat}
    (hcopy : copy ∈ underAfter [] es)
    (houtcome : Request.outcomeAt transfers copy.ticket = some outcome) :
    Recorded (es ++ [⟨.join copy, outcome⟩]) transfers := by
  have hunder : underAfter [] (es ++ [⟨.join copy, outcome⟩]) = (underAfter [] es).erase copy :=
    underAfter_append [] es _
  obtain ⟨outcome?, hticket⟩ := h.known copy hcopy
  obtain rfl : outcome? = some outcome := by
    rw [Request.outcomeAt, hticket] at houtcome
    exact houtcome
  refine ⟨?_, fun c o hmem => ?_, fun i t hi hnone => ?_, fun c hc => ?_, h.ordered,
    fun c hc => ?_⟩
  · rw [startedIn, List.filterMap_append]
    exact (List.append_nil _).trans h.started
  · rcases List.mem_append.1 hmem with hmem | hmem
    · exact h.joined c o hmem
    · cases List.mem_singleton.1 hmem
      exact hticket
  · rw [hunder]
    refine (List.mem_erase_of_ne fun heq => ?_).2 (h.unmade i t hi hnone)
    rw [← heq, hi] at hticket
    rw [Option.some.inj hticket] at hnone
    cases hnone
  · rw [hunder] at hc
    exact h.known c (List.mem_of_mem_erase hc)
  · rw [hunder] at hc
    exact h.latest c (List.mem_of_mem_erase hc)

section Made

variable {source destination : Path} {ticket : Nat} {outcome : Except DiskError Nat}

theorem getElem?_set {i : Nat} {t : Transfer}
    (hticket : transfers[ticket]? = some ⟨source, destination, none⟩) :
    (transfers.set ticket ⟨source, destination, some outcome⟩)[i]? = some t ↔
      (i = ticket ∧ t = ⟨source, destination, some outcome⟩) ∨
        i ≠ ticket ∧ transfers[i]? = some t := by
  have hlt := (List.getElem?_eq_some_iff.1 hticket).1
  by_cases hi : i = ticket
  · subst hi
    rw [List.getElem?_set_self hlt]
    simp [eq_comm]
  · rw [List.getElem?_set_ne (Ne.symm hi)]
    simp [hi]

/-- A transfer is made. -/
theorem made (h : Recorded es transfers)
    (hticket : transfers[ticket]? = some ⟨source, destination, none⟩) :
    Recorded es (transfers.set ticket ⟨source, destination, some outcome⟩) := by
  have hold {i : Nat} {t : Transfer}
      (hi : (transfers.set ticket ⟨source, destination, some outcome⟩)[i]? = some t) :
      ∃ old, transfers[i]? = some old ∧ t.source = old.source ∧ t.destination = old.destination ∧
        (t.outcome? = none → old.outcome? = none ∧ t = old) := by
    rcases (getElem?_set hticket).1 hi with ⟨rfl, rfl⟩ | ⟨-, hi⟩
    · exact ⟨_, hticket, rfl, rfl, nofun⟩
    · exact ⟨t, hi, rfl, rfl, fun hnone => ⟨hnone, rfl⟩⟩
  refine ⟨?_, fun copy o hmem => ?_, fun i t hi hnone => ?_, fun copy hcopy => ?_,
    fun i j t t' hij hi hj hsame hnone => ?_, fun copy hcopy j t hj ht => ?_⟩
  · rw [h.started]
    refine List.ext_getElem? fun i => ?_
    rw [List.getElem?_mapIdx, List.getElem?_mapIdx]
    by_cases hi : i = ticket
    · subst hi
      have hlt := (List.getElem?_eq_some_iff.1 hticket).1
      rw [List.getElem?_set_self hlt, hticket]
      rfl
    · rw [List.getElem?_set_ne (Ne.symm hi)]
  · have hjoined := h.joined copy o hmem
    refine (getElem?_set hticket).2 (.inr ⟨?_, hjoined⟩)
    rintro rfl
    cases hticket.symm.trans hjoined
  · obtain ⟨old, hi, -, -, hsame⟩ := hold hi
    obtain ⟨hnone, rfl⟩ := hsame hnone
    exact h.unmade i t hi hnone
  · obtain ⟨outcome?, hcopy⟩ := h.known copy hcopy
    by_cases hne : copy.ticket = ticket
    · rw [hne, hticket] at hcopy
      cases hcopy
      exact ⟨_, (getElem?_set hticket).2 (.inl ⟨hne, rfl⟩)⟩
    · exact ⟨outcome?, (getElem?_set hticket).2 (.inr ⟨hne, hcopy⟩)⟩
  · obtain ⟨old, hi, -, -, hlast⟩ := hold hi
    obtain ⟨old', hj, -, hdestination, -⟩ := hold hj
    obtain ⟨hnone, rfl⟩ := hlast hnone
    exact h.ordered i j t old' hij hi hj (hdestination ▸ hsame) hnone
  · obtain ⟨old, ht, -, hdestination, -⟩ := hold ht
    rw [hdestination]
    exact h.latest copy hcopy j old hj ht

end Made

/-- The transfers are those that were handed out. -/
theorem mem_startedIn (h : Recorded es transfers) {i : Nat} {t : Transfer}
    (hi : transfers[i]? = some t) : ⟨t.source, t.destination, i⟩ ∈ startedIn es := by
  rw [h.started]
  exact List.mem_of_getElem? (i := i) (by rw [List.getElem?_mapIdx, hi]; rfl)

/-- A ticket is how many copies were handed out before. -/
theorem ticket_eq {front rest : List Exchange} {source destination : Path} {ticket : Nat}
    (h : Recorded (front ++ ⟨.start source destination, ticket⟩ :: rest) transfers) :
    ticket = (startedIn front).length := by
  have hstarted : startedIn (front ++ ⟨.start source destination, ticket⟩ :: rest) =
      startedIn front ++ ⟨source, destination, ticket⟩ :: startedIn rest := List.filterMap_append
  have hnext := congrArg (·[(startedIn front).length]?) (hstarted.symm.trans h.started)
  rw [List.getElem?_append_right (Nat.le_refl _), Nat.sub_self, List.getElem?_mapIdx] at hnext
  obtain ⟨t, -, heq⟩ := Option.map_eq_some_iff.1 hnext.symm
  exact (congrArg Pending.ticket heq).symm

/-- Where more was handed out later, the first transfers differ at most in what is made. -/
theorem exists_of_started {es' : List Exchange} {transfers' : List Transfer} {i : Nat}
    {t : Transfer} (h : Recorded es transfers) (h' : Recorded es' transfers')
    (hstarted : startedIn es <+: startedIn es') (hi : transfers[i]? = some t) :
    ∃ outcome?, transfers'[i]? = some ⟨t.source, t.destination, outcome?⟩ := by
  have hith : (startedIn es)[i]? = some ⟨t.source, t.destination, i⟩ := by
    rw [h.started, List.getElem?_mapIdx, hi]
    rfl
  obtain ⟨hlt, hlast⟩ := List.getElem?_eq_some_iff.1 hith
  have hith' := List.prefix_iff_getElem?.1 hstarted i hlt
  rw [hlast, h'.started, List.getElem?_mapIdx] at hith'
  obtain ⟨⟨source, destination, outcome?⟩, hi', hsame⟩ := Option.map_eq_some_iff.1 hith'
  cases hsame
  exact ⟨outcome?, hi'⟩

/-- A step adds to the record what it does, if that is in order. -/
theorem step {w w' : Worker α} {shared shared' : Shared} {move : Move} {deed : Deed}
    (h : Recorded es w.transfers) (hstep : w.step? shared move = some (deed, w', shared'))
    (horder : Orderly [] (es ++ deed.exchange?.toList)) :
    Recorded (es ++ deed.exchange?.toList) w'.transfers := by
  rcases Worker.step?_cases hstep with ⟨r, next, answer, transfers, -, hanswer, rfl, rfl⟩ |
    ⟨ticket, source, destination, outcome, hticket, -, -, rfl, rfl⟩
  · have hlast := (orderly_append.1 horder).2.1
    have htransfers := Request.transfers_of_answer? hanswer
    cases r with
    | start source destination =>
      obtain ⟨rfl, rfl⟩ := htransfers
      exact h.start hlast
    | join copy =>
      obtain ⟨houtcome, rfl⟩ := htransfers
      exact h.join hlast houtcome
    | _ =>
      have hkept : transfers = w.transfers := htransfers
      rw [hkept]
      exact h.aside rfl nofun
  · rw [Deed.exchange?, Option.toList_none, List.append_nil]
    exact h.made hticket

end Recorded

end StylesheetAssets.Parallel
