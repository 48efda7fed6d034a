import StylesheetAssets.Url.Fragment

/-!
The references of a value: those of its occurrences that name a file, by their place in bytes.
-/
namespace StylesheetAssets.Url

structure Reference where
  /-- The whole `url()`. -/
  span : Span
  /-- The path between the quotes or parentheses. -/
  path : Span
  quoted : Bool
deriving DecidableEq, Repr

/-- The occurrences among the fragments, each with the offset at which it starts. -/
def locate (offset : Nat) : List Fragment → List (Nat × Occurrence)
  | [] => []
  | .char c :: rest => locate (offset + c.utf8Size) rest
  | .url o :: rest => (offset, o) :: locate (offset + Text.byteLength o.text) rest

def Occurrence.reference (start : Nat) (o : Occurrence) : Reference :=
  let opened := start + Text.byteLength o.keyword + Text.byteLength o.lead
  let closed := opened + Text.byteLength o.path
  ⟨⟨start, closed + Text.byteLength o.trail⟩, ⟨opened, closed⟩, o.quoted⟩

def references (value : List Char) : List Reference :=
  (locate 0 (fragments none value)).filterMap fun (start, o) =>
    if o.isLocal then some (o.reference start) else none

end StylesheetAssets.Url
