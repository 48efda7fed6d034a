import StylesheetAssets.CommandLine.Switch
import StylesheetAssets.Config.Overrides

/-!
The values of options and operands, read from their texts.
-/
namespace StylesheetAssets.CommandLine

inductive ColorChoice where
  | auto
  | always
  | never
deriving DecidableEq, Repr

namespace ColorChoice

def name : ColorChoice → String
  | auto => "auto"
  | always => "always"
  | never => "never"

def ofName? (name : String) : Option ColorChoice := [auto, always, never].find? (·.name = name)

end ColorChoice

/-- What was given for one command. -/
structure Values where
  color : Option ColorChoice := none
  config : Option Path := none
  verbose : Bool := false
  outDir : Option Path := none
  overrides : Overrides := {}
  operands : List Path := []
deriving DecidableEq, Inhabited, Repr

def maxLimit : Nat := 0xffffffffffffffff

/-- The number that a text of decimal digits stands for; a plus sign may stand in front. -/
def readNumber (text : String) : Except UsageError Nat :=
  let digits :=
    match text.toList with
    | '+' :: digits => digits
    | digits => digits
  let n := digits.foldl (fun n c => 10 * n + (c.toNat - 48)) 0
  if !digits.isEmpty && digits.all Char.isDigit && n ≤ maxLimit then .ok n
  else .error .invalidNumber

def readPath (text : String) : Except UsageError Path :=
  if text.isEmpty then .error .invalidValue else .ok ⟨text⟩

def readBool : String → Except UsageError Bool
  | "true" => .ok true
  | "false" => .ok false
  | _ => .error .invalidValue

def readColor (text : String) : Except UsageError ColorChoice :=
  match ColorChoice.ofName? text with
  | some choice => .ok choice
  | none => .error .invalidValue

namespace Values

def has (v : Values) : Setting → Bool
  | .color => v.color.isSome
  | .config => v.config.isSome
  | .outDir => v.outDir.isSome
  | .imageOutput => v.overrides.imageOutput.isSome
  | .fontOutput => v.overrides.fontOutput.isSome
  | .cssOutput => v.overrides.cssOutput.isSome
  | .limit => v.overrides.limit.isSome
  | .hash => v.overrides.hash.isSome
  | .slash => v.overrides.slash.isSome

/-- The values with one more, which must not be given already. -/
def set (v : Values) (s : Setting) (text : String) : Except UsageError Values :=
  let o := v.overrides
  if v.has s then .error .repeated
  else
    match s with
    | .color => (readColor text).map fun choice => { v with color := some choice }
    | .config => (readPath text).map fun path => { v with config := some path }
    | .outDir => (readPath text).map fun path => { v with outDir := some path }
    | .imageOutput =>
      (readPath text).map fun path => { v with overrides := { o with imageOutput := some path } }
    | .fontOutput =>
      (readPath text).map fun path => { v with overrides := { o with fontOutput := some path } }
    | .cssOutput =>
      (readPath text).map fun path => { v with overrides := { o with cssOutput := some path } }
    | .limit => (readNumber text).map fun n => { v with overrides := { o with limit := some n } }
    | .hash => (readBool text).map fun b => { v with overrides := { o with hash := some b } }
    | .slash => (readBool text).map fun b => { v with overrides := { o with slash := some b } }

def addOperand (v : Values) (text : String) : Except UsageError Values :=
  (readPath text).map fun path => { v with operands := v.operands ++ [path] }

def setVerbose (v : Values) : Except UsageError Values :=
  if v.verbose then .error .repeated else .ok { v with verbose := true }

/-- Whether any option that is known everywhere was given. -/
def anyShared (v : Values) : Bool := v.color.isSome || v.config.isSome || v.verbose

end Values

end StylesheetAssets.CommandLine
