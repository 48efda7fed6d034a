import StylesheetAssets.Asset.Target
import StylesheetAssets.Proofs.Url.Form

/-!
Inlined files as paths: they can be written into every occurrence, and name no file.
-/
namespace StylesheetAssets

open Url (isPlain)

namespace Base64

theorem isPlain_digit (n : Nat) : isPlain (digit n) = true := by
  have hdigits : ∀ n ∈ List.range 64, isPlain (digit n) = true := by decide
  by_cases hn : n < 64
  · exact hdigits n (List.mem_range.2 hn)
  · have hslash : digit n = '/' := by
      rw [digit, if_neg (by omega), if_neg (by omega), if_neg (by omega), if_neg (by omega)]
    rw [hslash]
    decide

theorem isPlain_of_mem_encodeBytes {bytes : List UInt8} :
    ∀ c ∈ encodeBytes bytes, isPlain c = true := by
  have hpad : isPlain '=' = true := by decide
  fun_induction encodeBytes bytes with
  | case1 a b c rest n ih => simpa [isPlain_digit] using ih
  | case2 a b n => simp [isPlain_digit, hpad]
  | case3 a => simp [isPlain_digit, hpad]
  | case4 => simp

end Base64

theorem MediaType.isPlain_of_mem_ofExtension (extension : Option String) :
    ∀ c ∈ (ofExtension extension).toList, isPlain c = true := by
  refine List.all_eq_true.1 ?_
  unfold ofExtension
  split <;> decide

namespace AssetTarget

theorem toList_dataUri (t : AssetTarget) (bytes : ByteArray) :
    (t.dataUri bytes).toList = ['d', 'a', 't', 'a', ':'] ++ (MediaType.ofPath t.path).toList ++
      [';', 'b', 'a', 's', 'e', '6', '4', ','] ++ Base64.encodeBytes bytes.data.toList := by
  simp [dataUri, Base64.encode]

theorem isPlain_of_mem_dataUri (t : AssetTarget) (bytes : ByteArray) :
    ∀ c ∈ (t.dataUri bytes).toList, isPlain c = true := by
  have hmedia := MediaType.isPlain_of_mem_ofExtension (t.path.extension?.map Text.lowerAscii)
  rw [toList_dataUri]
  simp only [List.forall_mem_append]
  exact ⟨⟨⟨List.all_eq_true.1 rfl, hmedia⟩, List.all_eq_true.1 rfl⟩,
    Base64.isPlain_of_mem_encodeBytes⟩

theorem hasScheme_dataUri (t : AssetTarget) (bytes : ByteArray) :
    Url.hasScheme (t.dataUri bytes).toList = true := by
  rw [toList_dataUri]
  rfl

end AssetTarget

end StylesheetAssets
