import StylesheetAssets.Proofs.Asset.DataUri

/-!
Reading base64 back. The reader takes exactly the padded form, in which bits that belong to no byte
are zero; what was encoded is read back as the bytes that it was made of.
-/
namespace StylesheetAssets.Base64

/-- The digits in the order of their values. -/
def alphabet : List Char :=
  "ABCDEFGHIJKLMNOPQRSTUVWXYZabcdefghijklmnopqrstuvwxyz0123456789+/".toList

/-- The value of a digit. -/
def value? (c : Char) : Option Nat := alphabet.idxOf? c

/-- Four digits stand for three bytes. Only the last group may be filled up, with one `=` in the
place of a byte that it lacks. -/
def decodeBytes : List Char → Option (List UInt8)
  | [] => some []
  | [a, b, '=', '='] => do
    let x ← value? a
    let y ← value? b
    if y % 16 = 0 then return [.ofNat (x * 4 + y / 16)] else none
  | [a, b, c, '='] => do
    let x ← value? a
    let y ← value? b
    let z ← value? c
    if z % 4 = 0 then return [.ofNat (x * 4 + y / 16), .ofNat (y % 16 * 16 + z / 4)] else none
  | a :: b :: c :: d :: rest => do
    let x ← value? a
    let y ← value? b
    let z ← value? c
    let u ← value? d
    let bytes ← decodeBytes rest
    return .ofNat (x * 4 + y / 16) :: .ofNat (y % 16 * 16 + z / 4) :: .ofNat (z % 4 * 64 + u) ::
      bytes
  | _ => none

/-- The bytes that a text in base64 stands for. -/
def decode? (text : String) : Option ByteArray :=
  (decodeBytes text.toList).map fun bytes => ⟨bytes.toArray⟩

theorem value?_digit {n : Nat} (h : n < 64) : value? (digit n) = some n := by
  have hdigits : ∀ n ∈ List.range 64, value? (digit n) = some n := by decide +kernel
  exact hdigits n (List.mem_range.2 h)

theorem value?_pad : value? '=' = none := by decide +kernel

theorem digit_ne_pad {n : Nat} (h : n < 64) : digit n ≠ '=' := by
  intro hpad
  have hvalue := value?_digit h
  rw [hpad, value?_pad] at hvalue
  cases hvalue

/-- A byte is known from its number. -/
theorem ofNat_eq {n : Nat} {a : UInt8} (h : n = a.toNat) : UInt8.ofNat n = a := by
  rw [h, UInt8.ofNat_toNat]

/-- Reading a group that is not filled up. -/
theorem decodeBytes_group {x y z u : Nat} (hx : x < 64) (hy : y < 64) (hz : z < 64) (hu : u < 64)
    (rest : List Char) :
    decodeBytes (digit x :: digit y :: digit z :: digit u :: rest) =
      (decodeBytes rest).map fun bytes => .ofNat (x * 4 + y / 16) ::
        .ofNat (y % 16 * 16 + z / 4) :: .ofNat (z % 4 * 64 + u) :: bytes := by
  have hu' := digit_ne_pad hu
  rw [decodeBytes]
  · simp only [value?_digit hx, value?_digit hy, value?_digit hz, value?_digit hu]
    cases decodeBytes rest <;> rfl
  · exact fun _ h _ => hu' h
  · exact fun h _ => hu' h

theorem decodeBytes_encodeBytes (bytes : List UInt8) :
    decodeBytes (encodeBytes bytes) = some bytes := by
  fun_induction encodeBytes bytes with
  | case1 a b c rest n ih =>
    have ha := a.toNat_lt
    have hb := b.toNat_lt
    have hc := c.toNat_lt
    have hn : n = a.toNat * 65536 + b.toNat * 256 + c.toNat := rfl
    rw [decodeBytes_group (by omega) (by omega) (by omega) (by omega), ih, Option.map_some]
    rw [ofNat_eq (a := a) (by omega), ofNat_eq (a := b) (by omega), ofNat_eq (a := c) (by omega)]
  | case2 a b n =>
    have ha := a.toNat_lt
    have hb := b.toNat_lt
    have hn : n = a.toNat * 1024 + b.toNat * 4 := rfl
    have hz : n % 64 % 4 = 0 := by omega
    rw [decodeBytes]
    · simp only [value?_digit (show n / 4096 < 64 by omega),
        value?_digit (show n / 64 % 64 < 64 by omega), value?_digit (show n % 64 < 64 by omega),
        Option.bind_eq_bind, Option.bind_some, if_pos hz]
      rw [ofNat_eq (a := a) (by omega), ofNat_eq (a := b) (by omega)]
      rfl
    · exact digit_ne_pad (by omega)
  | case3 a =>
    have ha := a.toNat_lt
    have hy : a.toNat % 4 * 16 % 16 = 0 := by omega
    rw [decodeBytes]
    simp only [value?_digit (show a.toNat / 4 < 64 by omega),
      value?_digit (show a.toNat % 4 * 16 < 64 by omega),
      Option.bind_eq_bind, Option.bind_some, if_pos hy]
    rw [ofNat_eq (a := a) (by omega)]
    rfl
  | case4 => rfl

/-- What was encoded is read back, whatever its length. -/
theorem decode?_encode (data : ByteArray) : decode? (encode data) = some data := by
  unfold decode? encode
  rw [String.toList_ofList, decodeBytes_encodeBytes, Option.map_some]

example : decode? "Zm9vYg==" = some "foob".toUTF8 := by decide +kernel

example : decode? "Zm9vYh==" = none := by decide +kernel

end StylesheetAssets.Base64
