import StylesheetAssets.Pattern.Automaton.Size
import StylesheetAssets.Pattern.Match
import StylesheetAssets.Pattern.Reader.Expression

/-!
Patterns that paths are sorted by.
-/
namespace StylesheetAssets

/-- A regular expression together with the text it was read from. -/
structure Pattern where
  source : String
  expression : Pattern.Expression
deriving DecidableEq, Inhabited, Repr

namespace Pattern

inductive PatternError where
  | unreadable (e : ReadError)
  | tooLarge
deriving DecidableEq, Inhabited, Repr

def ofSource (source : String) : Except PatternError Pattern := do
  let expression ← (Expression.read source).mapError .unreadable
  if expression.fits then return ⟨source, expression⟩ else throw .tooLarge

def isMatch (p : Pattern) (path : String) : Bool := p.expression.matchesIn path.toList

end Pattern

end StylesheetAssets
