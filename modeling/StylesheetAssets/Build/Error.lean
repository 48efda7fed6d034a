import StylesheetAssets.Config.File
import StylesheetAssets.Import.Flatten
import StylesheetAssets.Rewrite.Error

/-!
Why a run of the program failed, and how that is reported.
-/
namespace StylesheetAssets

inductive BuildError where
  | workDirectory (cause : DiskError)
  | config (path : Path) (cause : ConfigError)
  /-- An input that ends in no name has no place to be written to. -/
  | noFileName (input : Path)
  /-- Two inputs would be written to the same place. -/
  | clash (first second : Path) (name : String)
  | outputDirectory (path : Path) (cause : DiskError)
  | unreadable (input : Path) (cause : DiskError)
  | flatten (input : Path) (cause : Import.FlattenError)
  | rewrite (input : Path) (cause : RewriteError)
  | unwritable (output : Path) (cause : DiskError)
  | copies (input : Path) (cause : RewriteError)
deriving DecidableEq, Repr

/-- One link in a chain of causes. -/
inductive Cause where
  | stated (message : String)
  | disk (e : DiskError)
  | configText (e : ConfigTextError)
deriving DecidableEq, Repr

namespace Cause

def message : Cause → String
  | stated message => message
  | disk e => e.message
  | configText (.toml _) => "invalid TOML"
  | configText (.repeatedField name) => "duplicate field `" ++ name ++ "`"
  | configText (.wrongType name) => "invalid type for `" ++ name ++ "`"

def ofRewriteError (e : RewriteError) : List Cause :=
  .stated e.message :: (e.cause?.map .disk).toList

def ofFlattenError (e : Import.FlattenError) : List Cause :=
  match e with
  | .unreadable _ _ cause => [.stated e.message, .disk cause]
  | .cycle _ => [.stated e.message]

def ofConfigError (e : ConfigError) : List Cause :=
  match e with
  | .unreadable _ cause => [.stated e.message, .disk cause]
  | .malformed cause => [.stated e.message, .configText cause]
  | .invalid _ => [.stated e.message]

/-- A line that starts a cause, and the blanks that its further lines start with. -/
def indentation (number : Option Nat) : String × String :=
  match number with
  | some n =>
    let digits := toString n
    (String.ofList (List.replicate (5 - digits.length) ' ') ++ digits ++ ": ", "       ")
  | none => ("    ", "    ")

/-- The message of a cause, with all of its lines indented. -/
def indented (number : Option Nat) (c : Cause) : String :=
  let (first, further) := indentation number
  let lines := (Text.splitOn '\n' c.message.toList).map String.ofList
  first ++ ("\n" ++ further).intercalate lines

/-- A report on the error stream: what failed, then the causes, numbered if there are several. -/
def report : List Cause → String
  | [] => ""
  | [c] => "Error: " ++ c.message ++ "\n"
  | [c, cause] => "Error: " ++ c.message ++ "\n\nCaused by:\n" ++ cause.indented none ++ "\n"
  | c :: causes =>
    "Error: " ++ c.message ++ "\n\nCaused by:\n" ++
      "\n".intercalate (causes.zipIdx.map fun (cause, n) => cause.indented (some n)) ++ "\n"

end Cause

namespace BuildError

/-- What failed, and why, from the outside in. -/
def chain : BuildError → List Cause
  | workDirectory cause => [.stated "cannot read the working directory", .disk cause]
  | config path cause =>
    .stated ("failed to load config " ++ path.text) :: Cause.ofConfigError cause
  | noFileName input => [.stated ("input " ++ input.text ++ " has no file name")]
  | clash first second name =>
    [.stated (first.text ++ " and " ++ second.text ++ " would both be written as " ++ name)]
  | outputDirectory path cause =>
    [.stated ("failed to create output directory " ++ path.text), .disk cause]
  | unreadable input cause => [.stated ("failed to read " ++ input.text), .disk cause]
  | flatten input cause =>
    .stated ("failed to flatten imports of " ++ input.text) :: Cause.ofFlattenError cause
  | rewrite input cause =>
    .stated ("failed to rewrite " ++ input.text) :: Cause.ofRewriteError cause
  | unwritable output cause => [.stated ("failed to write " ++ output.text), .disk cause]
  | copies input cause =>
    .stated ("failed to copy assets of " ++ input.text) :: Cause.ofRewriteError cause

def report (e : BuildError) : String := Cause.report e.chain

end BuildError

end StylesheetAssets
