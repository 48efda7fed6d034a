/-!
TOML documents: values, and tables under construction.
-/
namespace StylesheetAssets.Toml

/-- A value. Numbers with a fraction and dates are told apart, but not kept. -/
inductive Value where
  | string (text : String)
  | integer (n : Int)
  | float
  | boolean (b : Bool)
  | dateTime
  | array (elements : List Value)
  /-- A table in braces. One that dotted keys inside another made may still be added to. -/
  | inlineTable (dotted : Bool) (entries : List (String × Value))
deriving Inhabited, Repr

inductive Error where
  /-- The text does not follow the grammar. -/
  | unexpected
  | duplicateKey (key : String)
  /-- A key names something that has no keys below it. -/
  | notATable (key : String)
deriving DecidableEq, Inhabited, Repr

inductive Item where
  | value (v : Value)
  /-- An implicit table was named only on the way to something below it; a dotted one by the keys
  of another table. -/
  | table (implicit dotted : Bool) (entries : List (String × Item))
  | tables (elements : List (List (String × Item)))
deriving Inhabited, Repr

structure Table where
  implicit : Bool := false
  dotted : Bool := false
  entries : List (String × Item) := []
deriving Inhabited, Repr

namespace Table

def get? (t : Table) (key : String) : Option Item := t.entries.lookup key

/-- The table with a key set, in its old place if it had one. -/
def set (t : Table) (key : String) (item : Item) : Table :=
  if t.entries.any (·.1 = key) then
    { t with entries := t.entries.map fun e => if e.1 = key then (key, item) else e }
  else { t with entries := t.entries ++ [(key, item)] }

def erase (t : Table) (key : String) : Table :=
  { t with entries := t.entries.filter (·.1 ≠ key) }

def toItem (t : Table) : Item := .table t.implicit t.dotted t.entries

/-- Applies `f` to the table that a path leads to. Tables that are missing on the way are made;
of several tables the last one is meant. Dotted keys must not enter a table that is already
defined. -/
def descend {α : Type} (dotted : Bool) (f : Table → Except Error (α × Table)) :
    List String → Table → Except Error (α × Table)
  | [], t => f t
  | key :: path, t =>
    match t.get? key with
    | none => do
      let (a, child) ← descend dotted f path { implicit := true, dotted }
      return (a, t.set key child.toItem)
    | some (.value _) => .error (.notATable key)
    | some (.table implicit isDotted entries) => do
      if dotted && !implicit then throw (.duplicateKey key)
      let (a, child) ← descend dotted f path ⟨implicit, isDotted, entries⟩
      return (a, t.set key child.toItem)
    | some (.tables elements) => do
      let (a, child) ← descend dotted f path { entries := elements.getLastD [] }
      return (a, t.set key (.tables (elements.dropLast ++ [child.entries])))

end Table

end StylesheetAssets.Toml
