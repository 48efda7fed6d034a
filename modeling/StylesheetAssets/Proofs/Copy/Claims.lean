import Mathlib.Algebra.BigOperators.Group.Finset.Piecewise
import Mathlib.Algebra.Order.BigOperators.Group.Finset
import StylesheetAssets.Copy.Queue

/-!
Claims one after the other. The registry remembers the latest one for each destination, and counts
how often a destination went from one source to another.
-/
namespace StylesheetAssets

/-- A file that is to be copied, and where to. -/
structure CopyRequest where
  source : Path
  destination : Path
deriving DecidableEq, Repr

/-- The sources that a destination was requested from, in order. Paths are told apart by their
components. -/
def sourcesOf (requests : List CopyRequest) (destination : List Component) :
    List (List Component) :=
  (requests.filter (·.destination.components = destination)).map (·.source.components)

def destinationsOf (requests : List CopyRequest) : Finset (List Component) :=
  (requests.map (·.destination.components)).toFinset

def contested (requests : List CopyRequest) : Finset (List Component) :=
  (destinationsOf requests).filter fun d =>
    ∃ a ∈ sourcesOf requests d, ∃ b ∈ sourcesOf requests d, a ≠ b

theorem sourcesOf_append (requests more : List CopyRequest) (d : List Component) :
    sourcesOf (requests ++ more) d = sourcesOf requests d ++ sourcesOf more d := by
  simp [sourcesOf]

theorem sourcesOf_concat (requests : List CopyRequest) (r : CopyRequest) (d : List Component) :
    sourcesOf (requests ++ [r]) d = sourcesOf requests d ++
      if r.destination.components = d then [r.source.components] else [] := by
  rw [sourcesOf_append]
  by_cases h : r.destination.components = d <;> simp [sourcesOf, h]

theorem mem_sourcesOf {requests : List CopyRequest} {a d : List Component} :
    a ∈ sourcesOf requests d ↔
      ∃ r ∈ requests, r.destination.components = d ∧ r.source.components = a := by
  simp [sourcesOf, and_assoc]

theorem mem_contested {requests : List CopyRequest} {d : List Component} :
    d ∈ contested requests ↔
      ∃ a ∈ sourcesOf requests d, ∃ b ∈ sourcesOf requests d, a ≠ b := by
  refine ⟨fun h => (Finset.mem_filter.1 h).2, fun h => Finset.mem_filter.2 ⟨?_, h⟩⟩
  obtain ⟨a, ha, -⟩ := h
  obtain ⟨r, hr, hd, -⟩ := mem_sourcesOf.1 ha
  exact List.mem_toFinset.2 (List.mem_map.2 ⟨r, hr, hd⟩)

/-- Only the set of requests matters. -/
theorem contested_congr {requests requests' : List CopyRequest}
    (h : ∀ d a, a ∈ sourcesOf requests d ↔ a ∈ sourcesOf requests' d) :
    contested requests = contested requests' := by
  ext d
  rw [mem_contested, mem_contested]
  simp only [h]

/-! ### Changing hands -/

/-- How often an element differs from the one in front of it. -/
def handovers {α : Type} [DecidableEq α] : List α → Nat
  | a :: b :: rest => (if a = b then 0 else 1) + handovers (b :: rest)
  | _ => 0

section Handovers

variable {α : Type} [DecidableEq α] {l : List α}

theorem handovers_concat (l : List α) (a : α) :
    handovers (l ++ [a]) =
      handovers l + if l.getLast?.any (· ≠ a) = true then 1 else 0 := by
  induction l with
  | nil => rfl
  | cons b l ih =>
    cases l with
    | nil => simp [handovers]
    | cons c l =>
      simp only [List.cons_append, handovers] at ih ⊢
      rw [ih, List.getLast?_cons_cons, Nat.add_assoc]

theorem handovers_eq_zero_iff : handovers l = 0 ↔ ∀ a ∈ l, ∀ b ∈ l, a = b := by
  induction l with
  | nil => simp [handovers]
  | cons a l ih =>
    cases l with
    | nil => simp [handovers]
    | cons b l =>
      rw [handovers, Nat.add_eq_zero_iff, ih]
      constructor
      · rintro ⟨hab, hall⟩
        have hfirst : a = b := by
          by_contra hne
          simp [hne] at hab
        have hb : ∀ c ∈ a :: b :: l, c = b := by
          intro c hc
          rcases List.mem_cons.1 hc with rfl | hc
          · exact hfirst
          · exact hall c hc b List.mem_cons_self
        intro c hc d hd
        rw [hb c hc, hb d hd]
      · intro hall
        have hfirst : a = b := hall a (by simp) b (by simp)
        exact ⟨if_pos hfirst, fun c hc d hd =>
          hall c (List.mem_cons_of_mem a hc) d (List.mem_cons_of_mem a hd)⟩

end Handovers

theorem mem_contested_iff_handovers {requests : List CopyRequest} {d : List Component} :
    d ∈ contested requests ↔ 0 < handovers (sourcesOf requests d) := by
  rw [Nat.pos_iff_ne_zero, ne_eq, handovers_eq_zero_iff, mem_contested]
  push Not
  rfl

/-! ### The registry behind some claims -/

namespace CopyRegistry

def claimAll (r : CopyRegistry) (claims : List CopyRequest) : CopyRegistry :=
  claims.foldl (fun r c => (r.claim c.source c.destination).2) r

theorem source?_claim (r : CopyRegistry) (source destination p : Path) :
    (r.claim source destination).2.source? p =
      if destination.same p = true then some source else r.source? p := by
  unfold source? claim
  rw [List.find?_cons]
  cases hsame : destination.same p with
  | true => rfl
  | false =>
    have hfind : (r.claims.filter (!·.1.same destination)).find? (·.1.same p) =
        r.claims.find? (·.1.same p) := by
      rw [List.find?_filter]
      refine congrArg (List.find? · _) (funext fun claim => ?_)
      cases hp : claim.1.same p with
      | false => simp
      | true =>
        have hne : claim.1.same destination = false := by
          rw [Path.same, decide_eq_true_iff] at hp
          rwa [Path.same, hp, decide_eq_false_iff_not, eq_comm, ← decide_eq_false_iff_not]
        simp [hne]
    simp only [hfind]
    rfl

theorem claimAll_concat (r : CopyRegistry) (claims : List CopyRequest) (c : CopyRequest) :
    r.claimAll (claims ++ [c]) = ((r.claimAll claims).claim c.source c.destination).2 :=
  List.foldl_concat ..

/-- The registry remembers the latest claim. -/
theorem source?_claimAll (claims : List CopyRequest) (p : Path) :
    ((claimAll {} claims).source? p).map Path.components =
      (sourcesOf claims p.components).getLast? := by
  induction claims using List.reverseRecOn with
  | nil => rfl
  | append_singleton claims c ih =>
    rw [claimAll_concat, source?_claim, sourcesOf_concat]
    by_cases h : c.destination.components = p.components
    · have hsame : c.destination.same p = true := decide_eq_true h
      rw [if_pos hsame, if_pos h, List.getLast?_concat]
      rfl
    · rw [if_neg (by simpa [Path.same] using h), if_neg h, List.append_nil, ih]

theorem conflicts_claim (r : CopyRegistry) (source destination : Path) :
    (r.claim source destination).2.conflicts = r.conflicts +
      if ((r.source? destination).map Path.components).any (· ≠ source.components) = true
      then 1 else 0 := by
  unfold claim
  cases r.source? destination with
  | none => rfl
  | some previous => by_cases h : previous.components = source.components <;> simp [Path.same, h]

/-- Every handover of every destination is counted. -/
theorem conflicts_claimAll_of_subset {claims : List CopyRequest} {ds : Finset (List Component)}
    (h : destinationsOf claims ⊆ ds) :
    (claimAll {} claims).conflicts = ∑ d ∈ ds, handovers (sourcesOf claims d) := by
  induction claims using List.reverseRecOn with
  | nil =>
    symm
    exact Finset.sum_eq_zero fun d _ => rfl
  | append_singleton claims c ih =>
    obtain ⟨hclaims, hlast⟩ : destinationsOf claims ⊆ ds ∧ c.destination.components ∈ ds := by
      simp only [destinationsOf, List.map_append, List.toFinset_append] at h
      refine ⟨Finset.union_subset_left h, Finset.union_subset_right h ?_⟩
      simp
    have hstep (d : List Component) : handovers (sourcesOf (claims ++ [c]) d) =
        handovers (sourcesOf claims d) + if c.destination.components = d then
          (if (sourcesOf claims d).getLast?.any (· ≠ c.source.components) = true then 1 else 0)
        else 0 := by
      rw [sourcesOf_concat]
      split
      · exact handovers_concat _ _
      · rw [List.append_nil, Nat.add_zero]
    rw [claimAll_concat, conflicts_claim, ih hclaims, source?_claimAll]
    simp only [hstep, Finset.sum_add_distrib, Finset.sum_ite_eq, if_pos hlast]

/-- The counter is the number of handovers of the contested destinations. -/
theorem conflicts_claimAll (claims : List CopyRequest) :
    (claimAll {} claims).conflicts = ∑ d ∈ contested claims, handovers (sourcesOf claims d) := by
  rw [conflicts_claimAll_of_subset (Finset.Subset.refl _)]
  refine (Finset.sum_subset (Finset.filter_subset _ _) fun d _ hd => ?_).symm
  exact Nat.eq_zero_of_not_pos (mt mem_contested_iff_handovers.2 hd)

/-- No contested destination is missed. -/
theorem card_contested_le (claims : List CopyRequest) :
    (contested claims).card ≤ (claimAll {} claims).conflicts := by
  rw [conflicts_claimAll, Finset.card_eq_sum_ones]
  exact Finset.sum_le_sum fun d hd => mem_contested_iff_handovers.1 hd

theorem conflicts_eq_zero_iff (claims : List CopyRequest) :
    (claimAll {} claims).conflicts = 0 ↔ contested claims = ∅ := by
  constructor
  · intro h
    have hle := card_contested_le claims
    rw [h] at hle
    exact Finset.card_eq_zero.1 (Nat.le_zero.1 hle)
  · intro h
    rw [conflicts_claimAll, h, Finset.sum_empty]

/-- The counter is right just where every contested destination changes hands only once. -/
theorem conflicts_eq_card_iff (claims : List CopyRequest) :
    (claimAll {} claims).conflicts = (contested claims).card ↔
      ∀ d, handovers (sourcesOf claims d) ≤ 1 := by
  have hpos : ∀ d ∈ contested claims, 1 ≤ handovers (sourcesOf claims d) := fun d hd =>
    mem_contested_iff_handovers.1 hd
  rw [conflicts_claimAll, Finset.card_eq_sum_ones, eq_comm, Finset.sum_eq_sum_iff_of_le hpos]
  constructor
  · intro h d
    by_cases hd : d ∈ contested claims
    · exact Nat.le_of_eq (h d hd).symm
    · exact Nat.le_of_not_lt fun hlt => hd (mem_contested_iff_handovers.2 (by omega))
  · intro h d hd
    exact Nat.le_antisymm (hpos d hd) (h d)

end CopyRegistry

end StylesheetAssets
