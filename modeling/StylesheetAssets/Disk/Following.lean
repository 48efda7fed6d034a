import StylesheetAssets.Disk.Operations

/-!
How many paths there are for a disk to follow. A path that is longer than `maxPath` leads nowhere,
so that whoever reads from ever new paths comes to an end.
-/
namespace StylesheetAssets.Disk

noncomputable def characters : List Char := (List.range 0x110000).map Char.ofNat

/-- All texts of at most so many characters. -/
noncomputable def textsUpTo : Nat → List (List Char)
  | 0 => [[]]
  | n + 1 => [] :: (textsUpTo n).flatMap fun s => characters.map (· :: s)

theorem mem_characters (c : Char) : c ∈ characters := by
  have hlt : c.toNat < 0x110000 := by
    rcases c.valid with h | ⟨-, h⟩
    · exact Nat.lt_trans h (by decide)
    · exact h
  exact List.mem_map.2 ⟨c.toNat, List.mem_range.2 hlt, Char.ofNat_toNat c⟩

theorem mem_textsUpTo {s : List Char} {n : Nat} (h : s.length ≤ n) : s ∈ textsUpTo n := by
  induction n generalizing s with
  | zero =>
    rw [List.eq_nil_of_length_eq_zero (Nat.le_zero.1 h)]
    exact List.mem_singleton_self []
  | succ n ih =>
    cases s with
    | nil => exact List.mem_cons_self
    | cons c s =>
      have hs : s ∈ textsUpTo n := ih (Nat.le_of_succ_le_succ h)
      exact List.mem_cons_of_mem _
        (List.mem_flatMap.2 ⟨s, hs, List.mem_map_of_mem (mem_characters c)⟩)

theorem countP_lt_countP {α : Type} {l : List α} {p q : α → Bool}
    (h : ∀ a ∈ l, p a = true → q a = true) {a : α} (ha : a ∈ l) (hp : p a = false)
    (hq : q a = true) : l.countP p < l.countP q := by
  induction l with
  | nil => cases ha
  | cons b l ih =>
    have hrest : ∀ a ∈ l, p a = true → q a = true := fun a ha => h a (List.mem_cons_of_mem b ha)
    have hle : l.countP p ≤ l.countP q := List.countP_mono_left hrest
    rcases List.mem_cons.1 ha with rfl | ha
    · rw [List.countP_cons_of_neg (by simp [hp]), List.countP_cons_of_pos hq]
      omega
    · have hlt := ih hrest ha
      have hb : (if p b = true then 1 else 0) ≤ if q b = true then 1 else 0 := by
        by_cases hpb : p b = true
        · exact Nat.le_of_eq (by rw [if_pos hpb, if_pos (h b List.mem_cons_self hpb)])
        · rw [if_neg hpb]
          exact Nat.zero_le _
      rw [List.countP_cons, List.countP_cons]
      omega

theorem length_le_utf8ByteSize (s : String) : s.toList.length ≤ s.utf8ByteSize := by
  have hsize (l : List Char) : l.length ≤ l.utf8Encode.size := by
    induction l with
    | nil => exact Nat.le_refl 0
    | cons c l ih =>
      have hc : [c].utf8Encode.size = c.utf8Size := by
        rw [List.utf8Encode_singleton, List.size_toByteArray, String.length_utf8EncodeChar]
      have hpos := c.utf8Size_pos
      rw [List.utf8Encode_cons, ByteArray.size_append, List.length_cons]
      omega
  have hs := hsize s.toList
  rwa [String.utf8Encode_toList] at hs

/-- How many of the paths that can be followed are not among those given. -/
@[irreducible]
noncomputable def pathsLeft (ps : List Path) : Nat :=
  (textsUpTo maxPath).countP fun s => ps.all fun p => p.text.toList ≠ s

/-- A new path leaves fewer. -/
theorem pathsLeft_append_lt {ps : List Path} {p : Path} (hnew : p ∉ ps)
    (hshort : p.text.utf8ByteSize ≤ maxPath) : pathsLeft (ps ++ [p]) < pathsLeft ps := by
  have hmem : p.text.toList ∈ textsUpTo maxPath :=
    mem_textsUpTo (Nat.le_trans (length_le_utf8ByteSize p.text) hshort)
  unfold pathsLeft
  refine countP_lt_countP (fun s _ h => ?_) hmem (by simp) ?_
  · rw [List.all_append, Bool.and_eq_true] at h
    exact h.1
  · refine List.all_eq_true.2 fun q hq => decide_eq_true fun htext => hnew ?_
    obtain rfl : q = p := congrArg Path.mk (String.toList_inj.1 htext)
    exact hq

/-- What a file was read through could be followed. -/
theorem short_of_readFile {d : Disk} {p : Path} {bytes : ByteArray} (h : d.readFile p = .ok bytes) :
    p.text.utf8ByteSize ≤ maxPath := by
  refine Nat.not_lt.1 fun hlong => ?_
  have hrefused : ∀ target, d.resolve p ≠ .ok target := by
    intro target htarget
    unfold resolve at htarget
    rw [if_pos hlong] at htarget
    split at htarget
    · cases htarget
    · split at htarget <;> cases htarget
  unfold readFile openFile at h
  split at h
  · next hfound => exact hrefused _ hfound
  · cases h
  · cases h
  · cases h

theorem short_of_readText {d : Disk} {p : Path} {text : String} (h : d.readText p = .ok text) :
    p.text.utf8ByteSize ≤ maxPath := by
  unfold readText at h
  cases hread : d.readFile p with
  | ok bytes => exact short_of_readFile hread
  | error e =>
    rw [hread] at h
    cases h

end StylesheetAssets.Disk
