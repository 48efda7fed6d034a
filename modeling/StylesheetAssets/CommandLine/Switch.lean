import StylesheetAssets.Path.Basic

/-!
The commands of the program and the options that each of them knows.
-/
namespace StylesheetAssets.CommandLine

/-- Why a command line is not carried out. -/
inductive UsageError where
  | help
  | version
  /-- Nothing at all was asked for. -/
  | nothingGiven
  | unknownArgument
  | unknownCommand
  | missingCommand
  /-- A value is missing, empty, or none of those allowed. -/
  | invalidValue
  | invalidNumber
  | repeated
  /-- An option without value was given one. -/
  | unwantedValue
  | missingInput
deriving DecidableEq, Repr

/-- The exit code of the program: help and version are no failures if they were asked for. -/
def UsageError.exitCode : UsageError → UInt32
  | help => 0
  | version => 0
  | _ => 2

inductive Flag where
  | verbose
  | help
  | version
deriving DecidableEq, Repr

inductive Setting where
  | color
  | config
  | outDir
  | imageOutput
  | fontOutput
  | cssOutput
  | limit
  | hash
  | slash
deriving DecidableEq, Repr

/-- Without its value such an option means `true`. -/
def Setting.isSwitch : Setting → Bool
  | hash => true
  | slash => true
  | _ => false

inductive Switch where
  | flag (f : Flag)
  | setting (s : Setting)
deriving DecidableEq, Repr

inductive CommandName where
  | build
  | mark
  | help
deriving DecidableEq, Repr

def CommandName.ofName? : String → Option CommandName
  | "build" => some build
  | "b" => some build
  | "mark" => some mark
  | "m" => some mark
  | "help" => some help
  | _ => none

/-- Whose arguments are being read: the program's own, or those of a command. -/
inductive Scope where
  | program
  | build
  | mark
deriving DecidableEq, Repr

namespace Scope

/-- The options that are known everywhere. -/
def sharedLong? : String → Option Switch
  | "verbose" => some (.flag .verbose)
  | "help" => some (.flag .help)
  | "color" => some (.setting .color)
  | "config" => some (.setting .config)
  | _ => none

def sharedShort? : Char → Option Switch
  | 'v' => some (.flag .verbose)
  | 'h' => some (.flag .help)
  | 'C' => some (.setting .config)
  | _ => none

def buildLong? : String → Option Switch
  | "out-dir" => some (.setting .outDir)
  | "img-output" => some (.setting .imageOutput)
  | "font-output" => some (.setting .fontOutput)
  | "css-output" => some (.setting .cssOutput)
  | "limit" => some (.setting .limit)
  | "hash" => some (.setting .hash)
  | "slash" => some (.setting .slash)
  | _ => none

def buildShort? : Char → Option Switch
  | 'd' => some (.setting .outDir)
  | 'l' => some (.setting .limit)
  | _ => none

def long? (scope : Scope) (name : String) : Option Switch :=
  (sharedLong? name).or <|
    match scope with
    | program => if name = "version" then some (.flag .version) else none
    | build => buildLong? name
    | mark => none

def short? (scope : Scope) (c : Char) : Option Switch :=
  (sharedShort? c).or <|
    match scope with
    | program => if c = 'V' then some (.flag .version) else none
    | build => buildShort? c
    | mark => none

end Scope

end StylesheetAssets.CommandLine
