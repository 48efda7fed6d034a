import Mathlib.Data.List.Basic
import StylesheetAssets.Text

/-!
Texts as bytes in UTF-8. A byte below 128 is a character of its own, so that a text is cut between
characters wherever its bytes are cut at such a byte.
-/
namespace StylesheetAssets.Text

def bytes (s : List Char) : List UInt8 := s.flatMap String.utf8EncodeChar

@[simp] theorem bytes_nil : bytes [] = [] := rfl

theorem bytes_cons (c : Char) (s : List Char) :
    bytes (c :: s) = String.utf8EncodeChar c ++ bytes s := rfl

@[simp] theorem bytes_append (s t : List Char) : bytes (s ++ t) = bytes s ++ bytes t :=
  List.flatMap_append

theorem bytes_eq_nil {s : List Char} : bytes s = [] ↔ s = [] := by
  cases s with
  | nil => simp
  | cons c s => simp [bytes_cons]

theorem length_bytes (s : List Char) : (bytes s).length = byteLength s := by
  induction s with
  | nil => rfl
  | cons c s ih =>
    rw [bytes_cons, List.length_append, String.length_utf8EncodeChar, ih, byteLength_cons]

theorem drop_bytes (front rest : List Char) :
    (bytes (front ++ rest)).drop (byteLength front) = bytes rest := by
  rw [bytes_append, ← length_bytes, List.drop_left]

theorem take_bytes (front rest : List Char) :
    (bytes (front ++ rest)).take (byteLength front) = bytes front := by
  rw [bytes_append, ← length_bytes, List.take_left]

theorem toList_toUTF8 (value : String) : value.toUTF8.data.toList = bytes value.toList := by
  rw [String.toUTF8_eq_toByteArray, ← String.utf8Encode_toList, List.utf8Encode,
    List.data_toByteArray]
  rfl

def charOf (b : UInt8) : Char := Char.ofNat b.toNat

theorem toNat_charOf (b : UInt8) : (charOf b).toNat = b.toNat := by
  have hb := b.toNat_lt
  rw [charOf, Char.ofNat, dif_pos (.inl (by omega))]
  rfl

/-- A character below 128 is one byte. -/
theorem exists_encode_eq {c : Char} (h : c.toNat < 128) :
    ∃ b, String.utf8EncodeChar c = [b] ∧ charOf b = c := by
  have hsize : c.utf8Size = 1 := by
    rw [Char.utf8Size_eq_one_iff, UInt32.le_iff_toNat_le]
    exact Nat.le_of_lt_succ h
  refine ⟨_, String.utf8EncodeChar_eq_singleton hsize, ?_⟩
  rw [← Char.toNat_inj, toNat_charOf, UInt32.toNat_toUInt8]
  exact Nat.mod_eq_of_lt (Nat.lt_trans h (by decide))

theorem bytes_cons_charOf {b : UInt8} (h : b.toNat < 128) (s : List Char) :
    bytes (charOf b :: s) = b :: bytes s := by
  obtain ⟨d, hencode, hd⟩ := exists_encode_eq (c := charOf b) (by rwa [toNat_charOf])
  have hbd : d.toNat = b.toNat := by rw [← toNat_charOf, hd, toNat_charOf]
  rw [bytes_cons, hencode, UInt8.toNat_inj.1 hbd]
  rfl

/-- All bytes of the other characters are from 128 on. -/
theorem le_of_mem_encode {c : Char} (h : 128 ≤ c.toNat) {b : UInt8}
    (hb : b ∈ String.utf8EncodeChar c) : 128 ≤ b.toNat := by
  have hv : ¬c.val.toNat ≤ 127 := Nat.not_le.2 h
  unfold String.utf8EncodeChar at hb
  simp only [if_neg hv] at hb
  split_ifs at hb <;> simp only [List.mem_cons, List.not_mem_nil, or_false] at hb
  all_goals rcases hb with rfl | rfl | rfl | rfl <;> rw [UInt8.toNat_ofNat'] <;> omega

/-- So are those behind the first byte of any character. -/
theorem le_of_mem_tail {c : Char} {first : UInt8} {more : List UInt8}
    (hencode : String.utf8EncodeChar c = first :: more) {b : UInt8} (hb : b ∈ more) :
    128 ≤ b.toNat := by
  by_cases hc : c.toNat < 128
  · obtain ⟨d, hd, -⟩ := exists_encode_eq hc
    rw [hd] at hencode
    cases hencode
    cases hb
  · exact le_of_mem_encode (Nat.not_lt.1 hc) (by simp [hencode, hb])

/-- A byte below 128 is a character: the text is cut in front of it and behind it. -/
theorem exists_of_bytes_eq {s : List Char} {front back : List UInt8} {b : UInt8}
    (hb : b.toNat < 128) (h : bytes s = front ++ b :: back) :
    ∃ before after, s = before ++ charOf b :: after ∧ bytes before = front ∧
      bytes after = back := by
  induction s generalizing front with
  | nil => simp at h
  | cons c s ih =>
    rw [bytes_cons] at h
    by_cases hc : c.toNat < 128
    · obtain ⟨d, hd, rfl⟩ := exists_encode_eq hc
      rw [hd] at h
      cases front with
      | nil =>
        obtain ⟨rfl, hback⟩ := List.cons.inj h
        exact ⟨[], s, rfl, rfl, hback⟩
      | cons e front =>
        obtain ⟨rfl, hfront⟩ := List.cons.inj h
        obtain ⟨before, after, rfl, rfl, hafter⟩ := ih hfront
        exact ⟨charOf d :: before, after, rfl, by rw [bytes_cons, hd]; rfl, hafter⟩
    · -- The bytes of the character all lie in front of the cut.
      rcases List.append_eq_append_iff.1 h with ⟨more, rfl, hmore⟩ | ⟨more, hencode, hmore⟩
      · obtain ⟨before, after, rfl, rfl, hafter⟩ := ih hmore
        exact ⟨c :: before, after, rfl, rfl, hafter⟩
      · cases more with
        | nil =>
          obtain ⟨before, after, rfl, hbefore, hafter⟩ := @ih [] hmore.symm
          refine ⟨c :: before, after, rfl, ?_, hafter⟩
          rw [bytes_cons, hbefore, hencode, List.append_nil, List.append_nil]
        | cons d more =>
          obtain ⟨rfl, -⟩ := List.cons.inj hmore
          have hle := le_of_mem_encode (Nat.not_lt.1 hc) (b := b) (by simp [hencode])
          omega

theorem eq_cons_of_bytes_eq {s : List Char} {back : List UInt8} {b : UInt8} (hb : b.toNat < 128)
    (h : bytes s = b :: back) : ∃ after, s = charOf b :: after ∧ bytes after = back := by
  obtain ⟨before, after, rfl, hbefore, hafter⟩ := @exists_of_bytes_eq s [] back b hb h
  cases before with
  | nil => exact ⟨after, rfl, hafter⟩
  | cons c before =>
    obtain ⟨hencode, -⟩ := List.append_eq_nil_iff.1 hbefore
    exact absurd hencode String.utf8EncodeChar_ne_nil

/-- Bytes below 128 in front of a text are characters in front of it. -/
theorem exists_of_bytes_eq_append {s : List Char} {front back : List UInt8}
    (hfront : ∀ b ∈ front, b.toNat < 128) (h : bytes s = front ++ back) :
    ∃ before after, s = before ++ after ∧ bytes before = front ∧ bytes after = back := by
  induction front generalizing s with
  | nil => exact ⟨[], s, rfl, rfl, h⟩
  | cons b front ih =>
    obtain ⟨hb, hrest⟩ := List.forall_mem_cons.1 hfront
    obtain ⟨more, rfl, hmore⟩ := eq_cons_of_bytes_eq hb h
    obtain ⟨before, after, rfl, rfl, hback⟩ := ih hrest hmore
    exact ⟨charOf b :: before, after, rfl, bytes_cons_charOf hb before, hback⟩

/-- And so are bytes below 128 behind a text. -/
theorem exists_append_of_bytes_eq {s : List Char} {front back : List UInt8}
    (hback : ∀ b ∈ back, b.toNat < 128) (h : bytes s = front ++ back) :
    ∃ before after, s = before ++ after ∧ bytes before = front ∧ bytes after = back := by
  cases back with
  | nil => exact ⟨s, [], by simp, by simpa using h, rfl⟩
  | cons b back =>
    have hb := hback b List.mem_cons_self
    obtain ⟨before, after, rfl, hbefore, hafter⟩ := exists_of_bytes_eq hb h
    exact ⟨before, charOf b :: after, rfl, hbefore, by rw [bytes_cons_charOf hb, hafter]⟩

/-! ### Kinds of characters -/

/-- A kind of characters that are all below 128. -/
def IsAscii (p : Char → Bool) : Prop := ∀ c, p c = true → c.toNat < 128

theorem isAscii_isAsciiBlank : IsAscii isAsciiBlank := by
  intro c h
  simp only [isAsciiBlank, Bool.or_eq_true, beq_iff_eq] at h
  rcases h with (((rfl | rfl) | rfl) | rfl) | rfl <;> decide

theorem isAscii_eq {d : Char} (hd : d.toNat < 128) : IsAscii (· == d) := by
  intro c h
  rwa [beq_iff_eq.1 h]

section Kinds

variable {p : Char → Bool} (hp : IsAscii p)

include hp

/-- Each byte of a character is of the kinds that the character is of. -/
theorem IsAscii.charOf_eq {c : Char} {b : UInt8} (hb : b ∈ String.utf8EncodeChar c) :
    p (charOf b) = p c := by
  by_cases hc : c.toNat < 128
  · obtain ⟨d, hd, rfl⟩ := exists_encode_eq hc
    rw [hd, List.mem_singleton] at hb
    rw [hb]
  · have hle := le_of_mem_encode (Nat.not_lt.1 hc) hb
    have hfalse (d : Char) (hd : 128 ≤ d.toNat) : p d = false :=
      eq_false_of_ne_true fun h => absurd (hp d h) (Nat.not_lt.2 hd)
    rw [hfalse c (Nat.not_lt.1 hc), hfalse _ (by rwa [toNat_charOf])]

theorem IsAscii.forall_bytes {s : List Char} {r : Bool} :
    (∀ b ∈ bytes s, p (charOf b) = r) ↔ ∀ c ∈ s, p c = r := by
  constructor
  · intro h c hc
    obtain ⟨b, hb⟩ := List.exists_mem_of_ne_nil _ (String.utf8EncodeChar_ne_nil (c := c))
    rw [← hp.charOf_eq hb]
    exact h b (List.mem_flatMap.2 ⟨c, hc, hb⟩)
  · intro h b hb
    obtain ⟨c, hc, hb⟩ := List.mem_flatMap.1 hb
    rw [hp.charOf_eq hb]
    exact h c hc

theorem IsAscii.head?_bytes (s : List Char) :
    (bytes s).head?.any (p <| charOf ·) = s.head?.any p := by
  cases s with
  | nil => rfl
  | cons c s =>
    obtain ⟨b, more, hencode⟩ := List.exists_cons_of_ne_nil (String.utf8EncodeChar_ne_nil (c := c))
    have hb := hp.charOf_eq (c := c) (b := b) (by simp [hencode])
    simp [bytes_cons, hencode, hb]

theorem IsAscii.getLast?_bytes (s : List Char) :
    (bytes s).getLast?.any (p <| charOf ·) = s.getLast?.any p := by
  rcases List.eq_nil_or_concat s with rfl | ⟨init, c, rfl⟩
  · rfl
  · have hne := String.utf8EncodeChar_ne_nil (c := c)
    have hlast := List.getLast?_eq_some_getLast hne
    have hb := hp.charOf_eq (List.getLast_mem hne)
    simp [bytes_cons, List.getLast?_append, hlast, hb]

end Kinds

end StylesheetAssets.Text
