import Mathlib.Data.List.Basic
import StylesheetAssets.Text

/-!
Texts that are cut into parts, and the places of the parts in them. A place is told by the text in
front of it.
-/
namespace StylesheetAssets.Text

/-- The place behind `front` lies within the text `part` behind `front'`, not at its start. -/
def Within (front front' part : List Char) : Prop :=
  ∃ mid tail, front = front' ++ mid ∧ part = mid ++ tail ∧ mid ≠ [] ∧ tail ≠ []

theorem Within.length_lt {front front' part : List Char} (h : Within front front' part) :
    front'.length < front.length ∧ front.length < front'.length + part.length := by
  obtain ⟨mid, tail, rfl, rfl, hmid, htail⟩ := h
  have hmidlen := List.length_pos_iff.2 hmid
  have htaillen := List.length_pos_iff.2 htail
  rw [List.length_append, List.length_append]
  omega

theorem Within.append_left {front front' part : List Char} (more : List Char)
    (h : Within front front' part) : Within (more ++ front) (more ++ front') part := by
  obtain ⟨mid, tail, rfl, rfl, hmid, htail⟩ := h
  exact ⟨mid, tail, (List.append_assoc _ _ _).symm, rfl, hmid, htail⟩

instance (front front' part : List Char) : Decidable (Within front front' part) :=
  decidable_of_iff (front' <+: front ∧ front.drop front'.length <+: part ∧
      front.drop front'.length ≠ [] ∧ part.drop (front.length - front'.length) ≠ []) <| by
    constructor
    · rintro ⟨⟨mid, rfl⟩, hpart, hmid, htail⟩
      rw [List.drop_left] at hpart hmid
      obtain ⟨tail, rfl⟩ := hpart
      rw [List.length_append, Nat.add_sub_cancel_left, List.drop_left] at htail
      exact ⟨mid, tail, rfl, rfl, hmid, htail⟩
    · rintro ⟨mid, tail, rfl, rfl, hmid, htail⟩
      rw [List.drop_left, List.length_append, Nat.add_sub_cancel_left, List.drop_left]
      exact ⟨List.prefix_append _ _, List.prefix_append _ _, hmid, htail⟩

/-- A character within a text that neither its start nor its end has stands in the middle. -/
theorem exists_middle {start middle finish mid tail : List Char} {c : Char}
    (h : start ++ (middle ++ finish) = mid ++ c :: tail) (hstart : c ∉ start.tail)
    (hfinish : c ∉ finish) (hmid : mid ≠ []) :
    ∃ more rest, mid = start ++ more ∧ middle = more ++ c :: rest := by
  rcases List.append_eq_append_iff.1 h with ⟨more, rfl, hrest⟩ | ⟨more, rfl, hrest⟩
  · rcases List.append_eq_append_iff.1 hrest with ⟨last, -, hlast⟩ | ⟨last, hmiddle, hlast⟩
    · refine absurd ?_ hfinish
      rw [hlast]
      exact List.mem_append_right _ List.mem_cons_self
    · cases last with
      | nil =>
        refine absurd ?_ hfinish
        rw [List.nil_append] at hlast
        rw [← hlast]
        exact List.mem_cons_self
      | cons d last =>
        obtain ⟨rfl, -⟩ := List.cons.inj hlast
        exact ⟨more, last, rfl, hmiddle⟩
  · cases more with
    | nil =>
      cases middle with
      | nil =>
        refine absurd ?_ hfinish
        rw [List.nil_append, List.nil_append] at hrest
        rw [← hrest]
        exact List.mem_cons_self
      | cons d middle =>
        obtain ⟨rfl, -⟩ := List.cons.inj hrest
        exact ⟨[], middle, by simp, rfl⟩
    | cons d more =>
      obtain ⟨rfl, -⟩ := List.cons.inj hrest
      refine absurd ?_ hstart
      rw [List.tail_append_of_ne_nil hmid]
      exact List.mem_append_right _ List.mem_cons_self

section Parts

variable {α : Type} {text : α → List Char}

/-- The parts of a text that goes on behind `front`, each with the text in front of it. -/
def placed (text : α → List Char) (front : List Char) : List α → List (List Char × α)
  | [] => []
  | a :: parts => (front, a) :: placed text (front ++ text a) parts

theorem placed_append (front : List Char) (parts more : List α) :
    placed text front (parts ++ more) =
      placed text front parts ++ placed text (front ++ parts.flatMap text) more := by
  induction parts generalizing front with
  | nil => simp [placed]
  | cons a parts ih => simp [placed, ih]

theorem mem_placed {front : List Char} {parts : List α} {p : List Char × α} :
    p ∈ placed text front parts ↔
      ∃ before behind, parts = before ++ p.2 :: behind ∧ p.1 = front ++ before.flatMap text := by
  induction parts generalizing front with
  | nil => simp [placed]
  | cons a parts ih =>
    rw [placed, List.mem_cons, ih]
    constructor
    · rintro (rfl | ⟨before, behind, rfl, hfront⟩)
      · exact ⟨[], parts, rfl, by simp⟩
      · exact ⟨a :: before, behind, rfl, by simpa using hfront⟩
    · rintro ⟨before, behind, hparts, hfront⟩
      cases before with
      | nil =>
        obtain ⟨rfl, -⟩ := List.cons.inj hparts
        exact .inl (Prod.ext (by simpa using hfront) rfl)
      | cons b before =>
        obtain ⟨rfl, rfl⟩ := List.cons.inj hparts
        exact .inr ⟨before, behind, rfl, by simpa using hfront⟩

theorem mem_of_mem_placed {front : List Char} {parts : List α} {p : List Char × α}
    (h : p ∈ placed text front parts) : p.2 ∈ parts := by
  obtain ⟨before, behind, rfl, -⟩ := mem_placed.1 h
  exact List.mem_append_right _ List.mem_cons_self

theorem append_of_mem_placed {front : List Char} {parts : List α} {p : List Char × α}
    (h : p ∈ placed text front parts) :
    ∃ rest, p.1 ++ (text p.2 ++ rest) = front ++ parts.flatMap text := by
  obtain ⟨before, behind, rfl, hfront⟩ := mem_placed.1 h
  exact ⟨behind.flatMap text, by simp [hfront]⟩

theorem length_le_of_mem_placed {front : List Char} {parts : List α} {p : List Char × α}
    (h : p ∈ placed text front parts) : front.length ≤ p.1.length := by
  obtain ⟨before, behind, -, hfront⟩ := mem_placed.1 h
  rw [hfront, List.length_append]
  exact Nat.le_add_right _ _

/-- A place in front of the end is the place of a part, or lies within one. -/
theorem exists_placed {parts : List α} {place rest : List Char}
    (h : place ++ rest = parts.flatMap text) (hrest : rest ≠ []) :
    ∃ before a behind, parts = before ++ a :: behind ∧
      (place = before.flatMap text ∨ Within place (before.flatMap text) (text a)) := by
  induction parts generalizing place with
  | nil => exact absurd (List.append_eq_nil_iff.1 h).2 hrest
  | cons a parts ih =>
    rw [List.flatMap_cons] at h
    have hbehind (more : List Char) (hplace : place = text a ++ more)
        (hmore : more ++ rest = parts.flatMap text) :
        ∃ before b behind, a :: parts = before ++ b :: behind ∧
          (place = before.flatMap text ∨ Within place (before.flatMap text) (text b)) := by
      obtain ⟨before, b, behind, rfl, hb⟩ := ih hmore
      refine ⟨a :: before, b, behind, rfl, ?_⟩
      rw [hplace, List.flatMap_cons]
      exact hb.imp (congrArg (text a ++ ·)) (Within.append_left (text a))
    -- The first part ends in front of the place, starts at it, or has it within.
    rcases List.append_eq_append_iff.1 h with ⟨tail, ha, hparts⟩ | ⟨more, hplace, hparts⟩
    · cases place with
      | nil => exact ⟨[], a, parts, rfl, .inl rfl⟩
      | cons c place =>
        cases tail with
        | nil => exact hbehind [] (by rw [ha, List.append_nil, List.append_nil]) hparts
        | cons d tail =>
          exact ⟨[], a, parts, rfl, .inr ⟨c :: place, d :: tail, rfl, ha, by simp, by simp⟩⟩
    · exact hbehind more hplace hparts.symm

/-- No part has its place within another one. -/
theorem not_within_of_mem_placed {front : List Char} {parts : List α} {p p' : List Char × α}
    (h : p ∈ placed text front parts) (h' : p' ∈ placed text front parts) :
    ¬Within p.1 p'.1 (text p'.2) := by
  induction parts generalizing front with
  | nil => cases h
  | cons a parts ih =>
    intro hwithin
    have hlength := hwithin.length_lt
    have hbehind : ∀ p ∈ placed text (front ++ text a) parts,
        front.length + (text a).length ≤ p.1.length := fun p hp => by
      rw [← List.length_append]
      exact length_le_of_mem_placed hp
    rw [placed, List.mem_cons] at h h'
    rcases h with rfl | h <;> rcases h' with rfl | h'
    · exact Nat.lt_irrefl _ hlength.1
    · exact absurd hlength.1 (by have := hbehind p' h'; dsimp only; omega)
    · exact absurd hlength.2 (by have := hbehind p h; dsimp only; omega)
    · exact ih h h' hwithin

/-- The places of parts that are not empty are in order, each in front of the next one. -/
theorem pairwise_placed {front : List Char} {parts : List α} (h : ∀ a ∈ parts, text a ≠ []) :
    (placed text front parts).Pairwise fun p p' => p.1.length < p'.1.length := by
  induction parts generalizing front with
  | nil => exact .nil
  | cons a parts ih =>
    obtain ⟨ha, hparts⟩ := List.forall_mem_cons.1 h
    refine List.pairwise_cons.2 ⟨fun p hp => ?_, ih hparts⟩
    have hle := length_le_of_mem_placed hp
    have hpos := List.length_pos_iff.2 ha
    rw [List.length_append] at hle
    dsimp only
    omega

variable {β : Type} {pick : α → Option β}

/-- What is picked from the parts of a text behind `front`, each with the text in front of its
part. -/
def picked (text : α → List Char) (pick : α → Option β) (front : List Char) (parts : List α) :
    List (List Char × β) :=
  (placed text front parts).filterMap fun p => (pick p.2).map (p.1, ·)

theorem mem_picked {front : List Char} {parts : List α} {q : List Char × β} :
    q ∈ picked text pick front parts ↔
      ∃ a, (q.1, a) ∈ placed text front parts ∧ pick a = some q.2 := by
  rw [picked, List.mem_filterMap]
  constructor
  · rintro ⟨⟨f, a⟩, hp, hq⟩
    obtain ⟨b, hb, rfl⟩ := Option.map_eq_some_iff.1 hq
    exact ⟨a, hp, hb⟩
  · rintro ⟨a, hp, ha⟩
    exact ⟨(q.1, a), hp, by rw [ha]; rfl⟩

/-- What is picked by a constructor stands at the places of its parts. -/
theorem mem_picked_iff {make : β → α} (hmake : ∀ a b, pick a = some b ↔ a = make b)
    {front : List Char} {parts : List α} {q : List Char × β} :
    q ∈ picked text pick front parts ↔ (q.1, make q.2) ∈ placed text front parts := by
  simp [mem_picked, hmake]

/-- Nothing is picked twice from parts that are not empty. -/
theorem nodup_picked {front : List Char} {parts : List α} (h : ∀ a ∈ parts, text a ≠ []) :
    (picked text pick front parts).Nodup := by
  refine (pairwise_placed h).filterMap _ fun p p' hlt q hq q' hq' heq => ?_
  obtain ⟨b, -, rfl⟩ := Option.map_eq_some_iff.1 hq
  obtain ⟨b', -, rfl⟩ := Option.map_eq_some_iff.1 hq'
  rw [(Prod.mk.inj heq).1] at hlt
  exact Nat.lt_irrefl _ hlt

theorem map_snd_picked (front : List Char) (parts : List α) :
    (picked text pick front parts).map (·.2) = parts.filterMap pick := by
  induction parts generalizing front with
  | nil => rfl
  | cons a parts ih =>
    have hbehind := ih (front ++ text a)
    rw [picked] at hbehind ⊢
    rw [placed]
    cases ha : pick a with
    | none => rw [List.filterMap_cons_none ha, List.filterMap_cons_none (by rw [ha]; rfl), hbehind]
    | some b =>
      rw [List.filterMap_cons_some ha, List.filterMap_cons_some (by rw [ha]; rfl), List.map_cons,
        hbehind]

end Parts

end StylesheetAssets.Text
