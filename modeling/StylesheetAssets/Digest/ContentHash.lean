import StylesheetAssets.Digest.Blake3

/-!
Content hashes and their short form in file names.
-/
namespace StylesheetAssets.Digest

def hexDigit (n : Nat) : Char := if n < 10 then Char.ofNat (48 + n) else Char.ofNat (87 + n)

/-- Two lower case digits for each byte. -/
def hexOfBytes (bytes : List UInt8) : String :=
  String.ofList (bytes.flatMap fun b => [hexDigit (b.toNat / 16), hexDigit (b.toNat % 16)])

structure ContentHash where
  digest : Vector UInt8 32
deriving DecidableEq

namespace ContentHash

def ofBytes (data : ByteArray) : ContentHash := ⟨Blake3.hash data⟩

def toHex (h : ContentHash) : String := hexOfBytes h.digest.toList

/-- The first 16 bytes in hex, which is what file names carry. -/
def fingerprint (h : ContentHash) : String := hexOfBytes (h.digest.toList.take 16)

end ContentHash

end StylesheetAssets.Digest
