import StylesheetAssets.Proofs.Disk.Place
import StylesheetAssets.Proofs.Rewrite.Running

/-!
What asking for copies does to the queue and to the disk.

A request may put one copy in the place of another, but only for the same destination. What lies on
the disk stays there, unless a copy that the queue knows of was made to its place.
-/
namespace StylesheetAssets

/-- The queue and the session, before and after. -/
structure Advances (w w' : CopyQueue × Session) : Prop where
  workDir : w'.2.disk.workDir = w.2.disk.workDir
  asked : ∀ p ∈ w.1.destinations, ∃ q ∈ w'.1.destinations, q.same p = true
  kept : ∀ {l : Location} {e : Entry}, w.2.disk.get? l = some e →
    (∀ p ∈ w'.1.destinations, w.2.disk.placeOf p ≠ l) → w'.2.disk.get? l = some e
  filed : ∀ {l : Location} {bytes : ByteArray}, w'.2.disk.get? l = some (.file bytes) →
    (∀ p ∈ w'.1.destinations, w.2.disk.placeOf p ≠ l) → w.2.disk.get? l = some (.file bytes)
  directories : ∀ l, w.2.disk.get? l = some .directory → w'.2.disk.get? l = some .directory

theorem same_refl (p : Path) : p.same p = true := decide_eq_true rfl

theorem same_symm {p q : Path} (h : p.same q = true) : q.same p = true :=
  decide_eq_true (of_decide_eq_true h).symm

theorem same_trans {p q r : Path} (h : p.same q = true) (h' : q.same r = true) :
    p.same r = true :=
  decide_eq_true ((of_decide_eq_true h).trans (of_decide_eq_true h'))

namespace Advances

variable {w w' w'' : CopyQueue × Session}

theorem refl (w : CopyQueue × Session) : Advances w w :=
  ⟨rfl, fun p hp => ⟨p, hp, same_refl p⟩, fun he _ => he, fun he _ => he, fun _ => id⟩

/-- Whatever is kept clear of the destinations in the end was clear of them before. -/
theorem clear (h : Advances w w') {d : Disk} {l : Location}
    (hclear : ∀ p ∈ w'.1.destinations, d.placeOf p ≠ l) :
    ∀ p ∈ w.1.destinations, d.placeOf p ≠ l := by
  intro p hp
  obtain ⟨q, hq, hqp⟩ := h.asked p hp
  rw [← d.placeOf_eq_of_same hqp]
  exact hclear q hq

theorem trans (h : Advances w w') (h' : Advances w' w'') : Advances w w'' := by
  have hclear {l : Location} (hfree : ∀ p ∈ w''.1.destinations, w.2.disk.placeOf p ≠ l) :
      (∀ p ∈ w'.1.destinations, w.2.disk.placeOf p ≠ l) ∧
        ∀ p ∈ w''.1.destinations, w'.2.disk.placeOf p ≠ l := by
    refine ⟨h'.clear hfree, fun p hp => ?_⟩
    rw [Disk.placeOf_congr h.workDir]
    exact hfree p hp
  refine ⟨h'.workDir.trans h.workDir, fun p hp => ?_, fun he hfree => ?_, fun he hfree => ?_,
    fun l hl => h'.directories l (h.directories l hl)⟩
  · obtain ⟨q, hq, hqp⟩ := h.asked p hp
    obtain ⟨r, hr, hrq⟩ := h'.asked q hq
    exact ⟨r, hr, same_trans hrq hqp⟩
  · exact h'.kept (h.kept he (hclear hfree).1) (hclear hfree).2
  · exact h.filed (h'.filed he (hclear hfree).2) (hclear hfree).1

/-- What does not touch the copies and only adds to the disk. -/
theorem of_extends (hcopies : w'.1.copies = w.1.copies)
    (hdisk : w.2.disk.Extends w'.2.disk) : Advances w w' := by
  refine ⟨hdisk.workDir, fun p hp => ⟨p, ?_, same_refl p⟩, fun he _ => hdisk.kept he,
    fun he _ => hdisk.filed he, fun l hl => hdisk.kept hl⟩
  rwa [CopyQueue.destinations, hcopies]

end Advances

namespace Copying

variable {α β : Type} {w w' : CopyQueue × Session}

theorem exec_get (w : CopyQueue × Session) :
    (get : Copying CopyQueue).exec w = (.ok w.1, w) := rfl

theorem exec_bind_eq_ok {x : Copying α} {f : α → Copying β} {b : β} :
    (x >>= f).exec w = (.ok b, w') ↔
      ∃ a w₁, x.exec w = (.ok a, w₁) ∧ (f a).exec w₁ = (.ok b, w') := by
  rw [exec_bind]
  constructor
  · intro h
    cases hx : x.exec w with
    | mk r w₁ =>
      rw [hx] at h
      cases r with
      | ok a => exact ⟨a, w₁, rfl, h⟩
      | error e => cases h
  · rintro ⟨a, w₁, hx, hf⟩
    rw [hx]
    exact hf

end Copying

/-! ### Requests -/

/-- Only the element itself is lost. -/
theorem perm_swapRemove {α : Type} {l : List α} {i : Nat} {a : α} (h : l[i]? = some a) :
    l.Perm (a :: swapRemove l i) := by
  obtain ⟨hi, rfl⟩ := List.getElem?_eq_some_iff.1 h
  obtain ⟨front, last, rfl⟩ : ∃ front last, l = front ++ [last] := by
    simpa using (List.eq_nil_or_concat l).resolve_left (List.ne_nil_of_length_pos (by omega))
  have hremove : swapRemove (front ++ [last]) i = ((front ++ [last]).set i last).dropLast := by
    simp [swapRemove]
  rw [hremove]
  by_cases hfront : i < front.length
  · rw [List.set_append_left _ _ hfront, List.dropLast_concat, List.getElem_append_left hfront,
      List.set_eq_take_append_cons_drop, if_pos hfront]
    have hsplit : front = front.take i ++ front[i] :: front.drop (i + 1) := by
      rw [← List.drop_eq_getElem_cons hfront, List.take_append_drop]
    have hswap : (front ++ [last]).Perm
        (last :: (front.take i ++ front[i] :: front.drop (i + 1))) := by
      rw [← hsplit]
      exact List.perm_append_comm
    refine hswap.trans ?_
    refine (List.perm_middle.cons last).trans ((List.Perm.swap _ _ _).trans ?_)
    exact List.perm_middle.symm.cons _
  · have hlast : i = front.length := by
      simp only [List.length_append, List.length_singleton] at hi
      omega
    subst hlast
    rw [List.getElem_concat_length rfl]
    simp

namespace CopyQueue

open Copying

theorem find?_spec {q : CopyQueue} {destination : Path} {copy : Copy} {place : Nat}
    (h : q.find? destination = some (copy, place)) :
    q.copies[place]? = some copy ∧ copy.destination.same destination = true := by
  have hmem := List.mem_of_find?_eq_some h
  have hsame := List.find?_some h
  exact ⟨List.mem_zipIdx_iff_getElem?.1 hmem, hsame⟩

theorem find?_eq_none {q : CopyQueue} {destination : Path} (h : q.find? destination = none) :
    ∀ copy ∈ q.copies, copy.destination.same destination = false := by
  intro copy hcopy
  obtain ⟨place, hplace⟩ := List.getElem?_of_mem hcopy
  have hfree := List.find?_eq_none.1 h (copy, place) (List.mem_zipIdx_iff_getElem?.2 hplace)
  exact eq_false_of_ne_true hfree

theorem exec_claim (source destination : Path) (w : CopyQueue × Session) :
    ∃ w', (claim source destination).exec w = (.ok (), w') ∧
      w'.1 = { w.1 with registry := (w.1.registry.claim source destination).2 } ∧
      w'.2.disk = w.2.disk := by
  unfold claim
  rw [exec_bind, exec_get]
  dsimp only
  rcases w.1.registry.claim source destination with ⟨- | previous, registry⟩
  · exact ⟨_, rfl, rfl, rfl⟩
  · exact ⟨_, rfl, rfl, rfl⟩

theorem exec_settle (copy : Copy) (place : Nat) (w : CopyQueue × Session) :
    (settle copy place).exec w =
      (copy.finish.map fun _ => (), { w.1 with copies := swapRemove w.1.copies place }, w.2) := by
  unfold settle
  rw [exec_bind]
  cases copy.finish <;> rfl

theorem exec_start (source destination : Path) (w : CopyQueue × Session) :
    ∃ w', (start source destination).exec w = (.ok (), w') ∧
      w'.1 = { w.1 with copies := w.1.copies ++
        [⟨source, destination, (w.2.disk.copyFile source destination).1⟩] } ∧
      w'.2.disk = (w.2.disk.copyFile source destination).2 :=
  ⟨_, rfl, rfl, rfl⟩

/-- What a request does: nothing where the very copy is in the queue already. Otherwise it puts the
copy behind all copies but the one to the same destination, if there is one. -/
theorem request_cases {source destination : Path} {w w' : CopyQueue × Session} {u : Unit}
    (h : (request source destination).exec w = (.ok u, w')) :
    (w' = w ∧ ∃ copy ∈ w.1.copies, copy.destination.same destination = true ∧
        copy.source.same source = true) ∨
      ∃ (replaced : Option Copy) (left : List Copy) (outcome : Except DiskError Nat),
        w.1.copies.Perm (replaced.toList ++ left) ∧
        (∀ copy ∈ replaced, copy.destination.same destination = true) ∧
        (replaced = none → ∀ copy ∈ left, copy.destination.same destination = false) ∧
        w'.1.copies = left ++ [⟨source, destination, outcome⟩] ∧
        w.2.disk.copyFile source destination = (outcome, w'.2.disk) := by
  unfold request at h
  rw [exec_bind, exec_get] at h
  dsimp only at h
  obtain ⟨w₁, hclaim, hclaimed, hdisk₁⟩ := exec_claim source destination w
  split at h
  · next copy place hfind =>
    obtain ⟨hplace, hsame⟩ := find?_spec hfind
    split at h
    · rw [exec_bind, hclaim] at h
      dsimp only at h
      rw [exec_bind, exec_settle] at h
      cases hfinish : copy.finish with
      | error e =>
        rw [hfinish] at h
        cases h
      | ok n =>
        rw [hfinish] at h
        obtain ⟨w₂, hstart, hcopies, hdisk⟩ := exec_start source destination
          ({ w₁.1 with copies := swapRemove w₁.1.copies place }, w₁.2)
        obtain rfl : w₂ = w' := congrArg Prod.snd (hstart.symm.trans h)
        dsimp only at hcopies hdisk
        rw [hclaimed, hdisk₁] at hcopies
        rw [hdisk₁] at hdisk
        refine .inr ⟨some copy, _, _, perm_swapRemove hplace, ?_, nofun,
          congrArg CopyQueue.copies hcopies, Prod.ext rfl hdisk.symm⟩
        rintro _ ⟨⟩
        exact hsame
    · next hsource =>
      cases h
      exact .inl ⟨rfl, copy, List.mem_of_getElem? hplace, hsame, by simpa using hsource⟩
  · next hfind =>
    rw [exec_bind, hclaim] at h
    obtain ⟨w₂, hstart, hcopies, hdisk⟩ := exec_start source destination w₁
    obtain rfl : w₂ = w' := congrArg Prod.snd (hstart.symm.trans h)
    rw [hclaimed, hdisk₁] at hcopies
    rw [hdisk₁] at hdisk
    exact .inr ⟨none, _, _, .refl _, nofun, fun _ => find?_eq_none hfind,
      congrArg CopyQueue.copies hcopies, Prod.ext rfl hdisk.symm⟩

/-- A request is known to the queue afterwards. -/
theorem exec_request {source destination : Path} {w w' : CopyQueue × Session} {u : Unit}
    (h : (request source destination).exec w = (.ok u, w')) :
    Advances w w' ∧ ∃ q ∈ w'.1.destinations, q.same destination = true := by
  rcases request_cases h with ⟨rfl, copy, hcopy, hsame, -⟩ |
    ⟨replaced, left, outcome, hleft, hreplaced, -, hcopies, hdisk⟩
  · exact ⟨.refl _, copy.destination, List.mem_map_of_mem hcopy, hsame⟩
  · have hdestination : destination ∈ w'.1.destinations := by simp [destinations, hcopies]
    have hplace {l : Location} (hfree : ∀ p ∈ w'.1.destinations, w.2.disk.placeOf p ≠ l) :
        w'.2.disk.get? l = w.2.disk.get? l := by
      have hkept := Disk.get?_copyFile source (hfree destination hdestination).symm
      rwa [hdisk] at hkept
    refine ⟨⟨?_, fun p hp => ?_, fun he hfree => ?_, fun he hfree => ?_, fun l hl => ?_⟩,
      destination, hdestination, same_refl _⟩
    · have hworkDir := Disk.workDir_copyFile w.2.disk source destination
      rwa [hdisk] at hworkDir
    · obtain ⟨c, hc, rfl⟩ := List.mem_map.1 hp
      rcases List.mem_append.1 (hleft.mem_iff.1 hc) with hc | hc
      · exact ⟨destination, hdestination, same_symm (hreplaced c (Option.mem_toList.1 hc))⟩
      · refine ⟨c.destination, List.mem_map_of_mem ?_, same_refl _⟩
        rw [hcopies]
        exact List.mem_append_left _ hc
    · rwa [hplace hfree]
    · rwa [← hplace hfree]
    · have hkept := Disk.get?_copyFile_directory source destination hl
      rwa [hdisk] at hkept

end CopyQueue

end StylesheetAssets
