import StylesheetAssets.Pattern.Automaton.Assembly

/-!
States that read one of several texts: a tree that forks where the texts differ.

The order of the texts is kept, as the first that matches is preferred. A text that ends inside
another one parts those before it from those behind.
-/
namespace StylesheetAssets.Pattern

namespace TextTree

open Assemble

/-- Texts in order, parted where one is empty. -/
def runs : List (List UInt8) → List (List (List UInt8))
  | [] => [[]]
  | [] :: rest => [] :: runs rest
  | text :: rest =>
    match runs rest with
    | run :: more => (text :: run) :: more
    | [] => [[text]]

/-- The texts that a byte leads to. -/
def behind (b : UInt8) (texts : List (List UInt8)) : List (List UInt8) :=
  (texts.filter (·.head? = some b)).map (·.drop 1)

/-- Of the empty texts in front one is enough. -/
def withoutRepeats (texts : List (List UInt8)) : List (List UInt8) :=
  if texts.head? = some [] then [] :: texts.dropWhile (·.isEmpty) else texts

/-- The states behind a place where some texts are left to read. Where all are read there are
none. -/
def node : (fuel : Nat) → List (List UInt8) → Assemble Unit
  | 0, _ => pure ()
  | fuel + 1, texts => do
    if texts.all (·.isEmpty) then return
    let parted := runs (withoutRepeats texts)
    for run in parted do
      let starts := (run.filterMap (·.head?)).eraseDups
      for b in starts do node fuel (behind b run)
      if 2 ≤ starts.length then
        let _ ← reader starts.length
      else if starts.length = 1 then
        let _ ← state
    let _ ← state
    ways ((parted.filter (!·.isEmpty)).length + parted.length - 1)

/-- The states that read one of some texts. -/
def set (texts : List (List UInt8)) : Assemble Unit := do
  let _ ← state
  node ((texts.map (·.length)).foldl max 0 + 1) texts

end TextTree

end StylesheetAssets.Pattern
