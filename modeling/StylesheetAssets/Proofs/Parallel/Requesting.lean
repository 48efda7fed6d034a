import StylesheetAssets.Proofs.Copy.Advancing
import StylesheetAssets.Proofs.Import.Chains
import StylesheetAssets.Proofs.Parallel.Leading

/-!
What a program asks for where it asks for copies, and where it waits for them.

A program that keeps its copies in order never hands two of them out for one destination: it waits
for the one before it hands out the other.
-/
namespace StylesheetAssets.Parallel

open Program

/-! ### Copies under way -/

namespace Exchange

/-- The copies under way after an exchange. -/
def under (copies : List Pending) : Exchange → List Pending
  | ⟨.start source destination, ticket⟩ => copies ++ [⟨source, destination, ticket⟩]
  | ⟨.join copy, _⟩ => copies.erase copy
  | _ => copies

/-- A copy is handed out where none is under way to its destination, and waited for only while it is
under way. -/
def InOrder (copies : List Pending) : Exchange → Prop
  | ⟨.start _ destination, _⟩ => ∀ c ∈ copies, c.destination.same destination = false
  | ⟨.join copy, _⟩ => copy ∈ copies
  | _ => True

variable {copies copies' : List Pending}

theorem under_perm (h : copies.Perm copies') (e : Exchange) :
    (e.under copies).Perm (e.under copies') := by
  obtain ⟨r, answer⟩ := e
  cases r with
  | start => exact h.append_right _
  | join copy => exact h.erase copy
  | _ => exact h

theorem InOrder.perm (h : copies.Perm copies') {e : Exchange} (he : e.InOrder copies) :
    e.InOrder copies' := by
  obtain ⟨r, answer⟩ := e
  cases r with
  | start => exact fun c hc => he c (h.mem_iff.2 hc)
  | join copy => exact h.mem_iff.1 he
  | _ => trivial

end Exchange

def underAfter (copies : List Pending) (es : List Exchange) : List Pending :=
  es.foldl Exchange.under copies

/-- Each exchange is in order behind those in front of it. -/
def Orderly (copies : List Pending) : List Exchange → Prop
  | [] => True
  | e :: es => e.InOrder copies ∧ Orderly (e.under copies) es

section Orderly

variable {copies copies' : List Pending} {es more : List Exchange}

theorem underAfter_append (copies : List Pending) (es more : List Exchange) :
    underAfter copies (es ++ more) = underAfter (underAfter copies es) more := List.foldl_append

theorem underAfter_perm (h : copies.Perm copies') (es : List Exchange) :
    (underAfter copies es).Perm (underAfter copies' es) := by
  induction es generalizing copies copies' with
  | nil => exact h
  | cons e es ih => exact ih (e.under_perm h)

theorem orderly_append :
    Orderly copies (es ++ more) ↔ Orderly copies es ∧ Orderly (underAfter copies es) more := by
  induction es generalizing copies with
  | nil => simp [Orderly, underAfter]
  | cons e es ih =>
    rw [List.cons_append, Orderly, Orderly, ih, and_assoc]
    rfl

theorem Orderly.perm (h : copies.Perm copies') (hes : Orderly copies es) : Orderly copies' es := by
  induction es generalizing copies copies' with
  | nil => trivial
  | cons e es ih => exact ⟨hes.1.perm h, ih (e.under_perm h) hes.2⟩

end Orderly

abbrev Distinct (copies : List Pending) : Prop := Path.Distinct (copies.map Pending.destination)

theorem Distinct.perm {copies copies' : List Pending} (h : copies.Perm copies')
    (hdistinct : Distinct copies) : Distinct copies' := by
  have hsymm {p q : Path} (hne : p.same q = false) : q.same p = false :=
    eq_false_of_ne_true fun heq => absurd (same_symm heq) (ne_true_of_eq_false hne)
  exact ((h.map Pending.destination).pairwise_iff hsymm).1 hdistinct

theorem distinct_concat {copies : List Pending} {copy : Pending} :
    Distinct (copies ++ [copy]) ↔
      Distinct copies ∧ ∀ c ∈ copies, c.destination.same copy.destination = false := by
  rw [Distinct, Distinct, Path.Distinct, Path.Distinct, List.map_append, List.pairwise_append]
  simp

/-! ### Requests -/

/-- How a request for a copy can come to its end: the very copy is under way already; no other one
is under way to the destination; or the one that is has been waited for. -/
inductive Requested (source destination : Path) :
    List Pending → List Exchange → List Pending → Prop
  | held {copies : List Pending} {copy : Pending} (mem : copy ∈ copies)
      (destined : copy.destination.same destination = true)
      (sourced : copy.source.same source = true) : Requested source destination copies [] copies
  | fresh {copies : List Pending} (ticket : Nat)
      (free : ∀ c ∈ copies, c.destination.same destination = false) :
      Requested source destination copies
        [⟨.claim source destination, ()⟩, ⟨.start source destination, ticket⟩]
        (copies ++ [⟨source, destination, ticket⟩])
  | replaced {copies left : List Pending} {copy : Pending} (n ticket : Nat)
      (perm : copies.Perm (copy :: left)) (destined : copy.destination.same destination = true) :
      Requested source destination copies
        [⟨.claim source destination, ()⟩, ⟨.join copy, .ok n⟩, ⟨.start source destination, ticket⟩]
        (left ++ [⟨source, destination, ticket⟩])

section Requested

variable {source destination : Path} {copies copies' : List Pending} {es : List Exchange} {u : Unit}

namespace Collecting

theorem find?_spec {copy : Pending} {place : Nat}
    (h : find? copies destination = some (copy, place)) :
    copies[place]? = some copy ∧ copy.destination.same destination = true := by
  have hsame := List.find?_some (p := fun c : Pending × Nat => c.1.destination.same destination) h
  exact ⟨List.mem_zipIdx_iff_getElem?.1 (List.mem_of_find?_eq_some h), hsame⟩

theorem find?_eq_none (h : find? copies destination = none) :
    ∀ c ∈ copies, c.destination.same destination = false := by
  intro c hc
  obtain ⟨place, hplace⟩ := List.getElem?_of_mem hc
  have hfree := List.find?_eq_none.1 h (c, place) (List.mem_zipIdx_iff_getElem?.2 hplace)
  exact eq_false_of_ne_true hfree

theorem leads_claim (h : (claim source destination copies).Leads es (done (.ok u, copies'))) :
    es = [⟨.claim source destination, ()⟩] ∧ copies' = copies := by
  obtain ⟨front, ⟨⟩, between, back, rfl, hfront, hback⟩ := leads_bind.1 h
  obtain ⟨hrequest, rfl⟩ := leads_lift.1 hfront
  obtain ⟨rfl, -, rfl⟩ := leads_pure.1 hback
  rw [leads_request.1 hrequest]
  exact ⟨rfl, rfl⟩

theorem leads_start (h : (start source destination copies).Leads es (done (.ok u, copies'))) :
    ∃ ticket, es = [⟨.start source destination, ticket⟩] ∧
      copies' = copies ++ [⟨source, destination, ticket⟩] := by
  obtain ⟨front, ticket, between, back, rfl, hfront, hback⟩ := leads_bind.1 h
  obtain ⟨hrequest, rfl⟩ := leads_lift.1 hfront
  obtain ⟨rfl, rfl⟩ := leads_modify.1 hback
  exact ⟨ticket, by rw [leads_request.1 hrequest]; rfl, rfl⟩

end Collecting

theorem Pending.leads_join {copy : Pending} {answer : Except RewriteError Nat}
    (h : copy.join.Leads es (done answer)) :
    ∃ outcome, es = [⟨.join copy, outcome⟩] ∧
      answer = outcome.mapError (.copy copy.source copy.destination) := by
  obtain ⟨front, outcome, back, rfl, hfront, hback⟩ := Program.leads_bind.1 h
  obtain ⟨rfl, rfl⟩ := Program.leads_pure.1 hback
  exact ⟨outcome, by rw [leads_request.1 hfront]; rfl, rfl⟩

namespace Collecting

theorem leads_settle {copy : Pending} {place : Nat}
    (h : (settle copy place copies).Leads es (done (.ok u, copies'))) :
    ∃ n, es = [⟨.join copy, .ok n⟩] ∧ copies' = swapRemove copies place := by
  obtain ⟨front, ⟨⟩, between, back, rfl, hfront, hback⟩ := leads_bind.1 h
  obtain ⟨rfl, rfl⟩ := leads_modify.1 hfront
  obtain ⟨joined, answer, between, last, rfl, hjoined, hlast⟩ := leads_bind.1 hback
  obtain ⟨hjoin, rfl⟩ := leads_lift.1 hjoined
  obtain ⟨outcome, rfl, rfl⟩ := Pending.leads_join hjoin
  cases outcome with
  | ok n =>
    obtain ⟨rfl, -, rfl⟩ := leads_pure.1 hlast
    exact ⟨n, rfl, rfl⟩
  | error e => exact absurd hlast not_leads_throw

theorem requested_of_leads
    (h : (request source destination copies).Leads es (done (.ok u, copies'))) :
    Requested source destination copies es copies' := by
  obtain ⟨front, c, between, back, rfl, hfront, hback⟩ := leads_bind.1 h
  obtain ⟨rfl, hc, hbetween⟩ := leads_get.1 hfront
  subst c between
  cases hfind : find? copies destination with
  | none =>
    rw [hfind] at hback
    dsimp only at hback
    obtain ⟨claimed, ⟨⟩, between, last, rfl, hclaimed, hlast⟩ := leads_bind.1 hback
    obtain ⟨rfl, rfl⟩ := leads_claim hclaimed
    obtain ⟨ticket, rfl, rfl⟩ := leads_start hlast
    exact .fresh ticket (find?_eq_none hfind)
  | some found =>
    obtain ⟨copy, place⟩ := found
    obtain ⟨hplace, hsame⟩ := find?_spec hfind
    rw [hfind] at hback
    dsimp only at hback
    split at hback
    · obtain ⟨claimed, ⟨⟩, between, rest, rfl, hclaimed, hrest⟩ := leads_bind.1 hback
      obtain ⟨rfl, rfl⟩ := leads_claim hclaimed
      obtain ⟨settled, ⟨⟩, between, last, rfl, hsettled, hlast⟩ := leads_bind.1 hrest
      obtain ⟨n, rfl, rfl⟩ := leads_settle hsettled
      obtain ⟨ticket, rfl, rfl⟩ := leads_start hlast
      exact .replaced n ticket (perm_swapRemove hplace) hsame
    · next hsource =>
      obtain ⟨rfl, -, rfl⟩ := leads_pure.1 hback
      exact .held (List.mem_of_getElem? hplace) hsame (by simpa using hsource)

end Collecting

namespace Requested

/-- Behind a request no destination stands twice, if none did before. -/
theorem distinct (h : Requested source destination copies es copies')
    (hdistinct : Distinct copies) : Distinct copies' := by
  cases h with
  | held => exact hdistinct
  | fresh ticket free => exact distinct_concat.2 ⟨hdistinct, free⟩
  | replaced n ticket perm destined =>
    obtain ⟨hother, hleft⟩ := List.pairwise_cons.1 (hdistinct.perm perm)
    refine distinct_concat.2 ⟨hleft, fun c hc => eq_false_of_ne_true fun hsame => ?_⟩
    have hne := hother _ (List.mem_map_of_mem hc)
    rw [same_trans destined (same_symm hsame)] at hne
    cases hne

theorem orderly (h : Requested source destination copies es copies')
    (hdistinct : Distinct copies) :
    Orderly copies es ∧ (underAfter copies es).Perm copies' := by
  have hlast := (h.distinct hdistinct)
  cases h with
  | held => exact ⟨trivial, .refl _⟩
  | fresh ticket free => exact ⟨⟨trivial, free, trivial⟩, .refl _⟩
  | @replaced left copy n ticket perm destined =>
    have hleft : (copies.erase copy).Perm left := by
      simpa using perm.erase copy
    refine ⟨⟨trivial, perm.mem_iff.2 List.mem_cons_self, fun c hc => ?_, trivial⟩,
      hleft.append_right _⟩
    exact (distinct_concat.1 hlast).2 c (hleft.mem_iff.1 hc)

end Requested

end Requested

/-! ### Waiting -/

def Pending.failureOf (copy : Pending) : Except DiskError Nat → Option RewriteError
  | .ok _ => none
  | .error cause => some (.copy copy.source copy.destination cause)

/-- The first failure among copies with their outcomes, or how many they are. -/
def waited (outcomes : List (Pending × Except DiskError Nat)) : Except RewriteError Nat :=
  match outcomes.findSome? fun o => o.1.failureOf o.2 with
  | some e => .error e
  | none => .ok outcomes.length

namespace Collecting

theorem leads_waitFrom {written : Nat} {failure : Option RewriteError} {copies : List Pending}
    {es : List Exchange} {answer : Except RewriteError Nat}
    (h : (waitFrom written failure copies).Leads es (done answer)) :
    ∃ outcomes : List (Pending × Except DiskError Nat), outcomes.map Prod.fst = copies ∧
      es = outcomes.map (fun o => ⟨.join o.1, o.2⟩) ∧
      answer = match failure.or (outcomes.findSome? fun o => o.1.failureOf o.2) with
        | some e => .error e
        | none => .ok (written + outcomes.length) := by
  induction copies generalizing written failure es with
  | nil =>
    obtain ⟨rfl, rfl⟩ := Program.leads_pure.1 h
    refine ⟨[], rfl, rfl, ?_⟩
    cases failure <;> rfl
  | cons copy copies ih =>
    obtain ⟨front, joined, back, rfl, hfront, hback⟩ := Program.leads_bind.1 h
    obtain ⟨outcome, rfl, rfl⟩ := Pending.leads_join hfront
    cases outcome with
    | ok n =>
      obtain ⟨outcomes, rfl, rfl, rfl⟩ := ih hback
      refine ⟨(copy, .ok n) :: outcomes, rfl, rfl, ?_⟩
      rw [List.findSome?_cons, List.length_cons, Nat.add_assoc, Nat.add_comm 1]
      rfl
    | error e =>
      obtain ⟨outcomes, rfl, rfl, rfl⟩ := ih hback
      refine ⟨(copy, .error e) :: outcomes, rfl, rfl, ?_⟩
      rw [List.findSome?_cons]
      cases failure <;> rfl

/-- Whoever waits joins all copies in their order. -/
theorem leads_wait {copies : List Pending} {es : List Exchange} {answer : Except RewriteError Nat}
    (h : (wait copies).Leads es (done answer)) :
    ∃ outcomes : List (Pending × Except DiskError Nat), outcomes.map Prod.fst = copies ∧
      es = outcomes.map (fun o => ⟨.join o.1, o.2⟩) ∧ answer = waited outcomes := by
  obtain ⟨outcomes, hcopies, hes, rfl⟩ := leads_waitFrom h
  refine ⟨outcomes, hcopies, hes, ?_⟩
  rw [Option.none_or, Nat.zero_add]
  rfl

end Collecting

/-- What is joined in the order of the copies under way is joined in order, and then nothing is
under way. -/
theorem orderly_joins {copies : List Pending} (outcomes : List (Pending × Except DiskError Nat))
    (h : (outcomes.map Prod.fst).Perm copies) :
    Orderly copies (outcomes.map fun o => ⟨.join o.1, o.2⟩) ∧
      underAfter copies (outcomes.map fun o => ⟨.join o.1, o.2⟩) = [] := by
  induction outcomes generalizing copies with
  | nil => exact ⟨trivial, List.perm_nil.1 h.symm⟩
  | cons o outcomes ih =>
    have hrest : (outcomes.map Prod.fst).Perm (copies.erase o.1) := by
      simpa using h.erase o.1
    obtain ⟨horderly, hunder⟩ := ih hrest
    exact ⟨⟨h.mem_iff.1 List.mem_cons_self, horderly⟩, hunder⟩

end StylesheetAssets.Parallel
