import StylesheetAssets.CommandLine.Values

/-!
Command lines, read argument by argument.

What has been given is not looked at when it is read, but when the next option or operand of
another kind comes, or at the end. Of two mistakes the one that is seen first in this order counts.
-/
namespace StylesheetAssets.CommandLine

/-- What has been read but not looked at. -/
inductive Pending where
  | nothing
  | setting (s : Setting) (value : Option String)
  | operands (texts : List String)
deriving DecidableEq, Repr

/-- How far the arguments of one scope have been read. -/
structure Reading where
  values : Values := {}
  pending : Pending := .nothing
  /-- After `--` everything is an operand. -/
  operandsOnly : Bool := false
deriving DecidableEq, Repr

namespace Reading

/-- Looks at what is pending. -/
def settle (r : Reading) : Except UsageError Reading := do
  let values ←
    match r.pending with
    | .nothing => pure r.values
    | .setting s (some text) => r.values.set s text
    | .setting s none => if s.isSwitch then r.values.set s "true" else throw .invalidValue
    | .operands texts => texts.foldlM Values.addOperand r.values
  return { r with values, pending := .nothing }

/-- Whether the next argument may be the value of an option. -/
def awaitsValue (r : Reading) : Bool :=
  match r.pending with
  | .setting _ none => true
  | _ => false

/-- How many operands there are, pending ones included. -/
def operandCount (r : Reading) : Nat :=
  r.values.operands.length +
    match r.pending with
    | .operands texts => texts.length
    | _ => 0

def takeFlag (r : Reading) (f : Flag) : Except UsageError Reading := do
  let r ← r.settle
  match f with
  | .help => throw .help
  | .version => throw .version
  | .verbose => return { r with values := ← r.values.setVerbose }

/-- Takes an option with the value that is attached to it. -/
def takeAttached (r : Reading) (s : Setting) (value : String) : Except UsageError Reading := do
  let r ← r.settle
  return { r with values := ← r.values.set s value }

/-- Takes an option whose value may be the next argument. -/
def takeSetting (r : Reading) (s : Setting) : Except UsageError Reading := do
  return { (← r.settle) with pending := .setting s none }

def takeLong (r : Reading) (scope : Scope) (name : String) (value : Option String) :
    Except UsageError Reading :=
  match scope.long? name, value with
  | none, _ => .error .unknownArgument
  | some (.flag f), none => r.takeFlag f
  | some (.flag _), some _ => .error .unwantedValue
  | some (.setting s), none => r.takeSetting s
  | some (.setting s), some value => r.takeAttached s value

/-- Takes options of one character that stand together. What follows an option with a value is the
value, behind an equals sign or not. -/
def takeShorts (r : Reading) (scope : Scope) : List Char → Except UsageError Reading
  | [] => .ok r
  | c :: rest =>
    match scope.short? c, rest with
    | none, _ => .error .unknownArgument
    | some (.flag f), rest => r.takeFlag f >>= (takeShorts · scope rest)
    | some (.setting s), [] => r.takeSetting s
    | some (.setting s), '=' :: value => r.takeAttached s (String.ofList value)
    | some (.setting s), value => r.takeAttached s (String.ofList value)

/-- Takes an argument that is neither an option nor the value of one. -/
def takeOperand (r : Reading) (scope : Scope) (text : String) : Except UsageError Reading :=
  match scope with
  | .program =>
    if r.operandsOnly && (CommandName.ofName? text).isSome then .error .unknownArgument
    else .error .unknownCommand
  | .mark =>
    if 0 < r.operandCount then .error .unknownArgument
    else r.settle.map fun r => { r with pending := .operands [text] }
  | .build =>
    match r.pending with
    | .operands texts => .ok { r with pending := .operands (texts ++ [text]) }
    | _ => r.settle.map fun r => { r with pending := .operands [text] }

/-- The name and value of a long option. -/
def splitLong (text : List Char) : String × Option String :=
  match Text.splitAt (· == '=') text with
  | (name, _ :: value) => (String.ofList name, some (String.ofList value))
  | (name, []) => (String.ofList name, none)

def take (r : Reading) (scope : Scope) (arg : String) : Except UsageError Reading :=
  if r.operandsOnly then r.takeOperand scope arg
  else
    match arg.toList with
    | ['-', '-'] => .ok { r with operandsOnly := true }
    | '-' :: '-' :: text => let (name, value) := splitLong text; r.takeLong scope name value
    | '-' :: c :: rest => r.takeShorts scope (c :: rest)
    | _ =>
      match r.pending with
      | .setting s none => .ok { r with pending := .setting s (some arg) }
      | _ => r.takeOperand scope arg

/-- Takes arguments up to the name of a command, which is answered with the arguments after it. -/
def takeAll (r : Reading) (scope : Scope) :
    List String → Except UsageError (Reading × Option (CommandName × List String))
  | [] => .ok (r, none)
  | arg :: rest =>
    let command :=
      if scope = .program && !r.operandsOnly && !r.awaitsValue then CommandName.ofName? arg
      else none
    match command with
    | some command => .ok (r, some (command, rest))
    | none => r.take scope arg >>= (takeAll · scope rest)

end Reading

inductive Command where
  /-- Rewrites stylesheets and copies their assets. -/
  | build (inputs : List Path) (outDir : Path) (overrides : Overrides)
  /-- Prints a stylesheet with its imports marked. -/
  | mark (input : Path)
deriving DecidableEq, Repr

structure Invocation where
  color : ColorChoice
  config : Path
  verbose : Bool
  command : Command
deriving DecidableEq, Repr

/-- The directory that stylesheets are written to if no other is given. -/
def defaultOutDir : Path := ⟨"dist"⟩

/-- The arguments of a command, all of them looked at. -/
def readValues (scope : Scope) (args : List String) : Except UsageError Values := do
  let (r, _) ← ({} : Reading).takeAll scope args
  return (← r.settle).values

def readCommand (name : CommandName) (args : List String) : Except UsageError (Values × Command) :=
  match name with
  | .build => do
    let v ← readValues .build args
    if v.operands.isEmpty then throw .missingInput
    return (v, .build v.operands (v.outDir.getD defaultOutDir) v.overrides)
  | .mark => do
    let v ← readValues .mark args
    match v.operands with
    | [] => throw .missingInput
    | input :: _ => return (v, .mark input)
  | .help =>
    match args.map CommandName.ofName? with
    | [] => .error .help
    | [some _] => .error .help
    | _ => .error .unknownCommand

/-- Reads the arguments of the program. An option that is known everywhere may stand on either side
of the command; where it stands on both, the second counts. -/
def read (args : List String) : Except UsageError Invocation := do
  match ← ({} : Reading).takeAll .program args with
  | (r, none) =>
    let r ← r.settle
    throw (if r.values.anyShared then .missingCommand else .nothingGiven)
  | (r, some (name, rest)) =>
    let (own, command) ← readCommand name rest
    let shared := (← r.settle).values
    return {
      color := (own.color.or shared.color).getD .auto
      config := (own.config.or shared.config).getD ⟨configFileName⟩
      verbose := own.verbose || shared.verbose
      command }

end StylesheetAssets.CommandLine
