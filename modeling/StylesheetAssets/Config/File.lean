import StylesheetAssets.Config.Basic
import StylesheetAssets.Config.Diagnostic
import StylesheetAssets.Session
import StylesheetAssets.Toml.Document

/-!
Configurations as they stand in files.
-/
namespace StylesheetAssets

inductive ConfigTextError where
  | toml (e : Toml.Error)
  /-- A field is given twice, under one or two of its names. -/
  | repeatedField (name : String)
  | wrongType (name : String)
deriving DecidableEq, Repr

inductive ConfigError where
  | unreadable (path : Path) (cause : DiskError)
  | malformed (cause : ConfigTextError)
  | invalid (diagnostics : List Diagnostic)
deriving DecidableEq, Repr

def ConfigError.message : ConfigError → String
  | unreadable path _ => "IO error when reading `" ++ path.text ++ "`"
  | malformed _ => "Config file parsing error"
  | invalid diagnostics => renderDiagnostics diagnostics

namespace Config

inductive Field where
  | imageOutput
  | fontOutput
  | cssOutput
  | imagePattern
  | fontPattern
  | limit
  | hash
  | slash
deriving DecidableEq, Repr

/-- The field with a name; some fields have two. -/
def Field.ofName? : String → Option Field
  | "img_output" => some imageOutput
  | "imgOutput" => some imageOutput
  | "font_output" => some fontOutput
  | "fontOutput" => some fontOutput
  | "css_output" => some cssOutput
  | "cssOutput" => some cssOutput
  | "img_extensions" => some imagePattern
  | "imgExtensions" => some imagePattern
  | "font_extensions" => some fontPattern
  | "fontExtensions" => some fontPattern
  | "limit" => some limit
  | "hash" => some hash
  | "slash" => some slash
  | _ => none

/-- The fields of a file before paths are resolved and patterns read. -/
structure Settings where
  imageOutput : Option Path := none
  fontOutput : Option Path := none
  cssOutput : Option Path := none
  imagePattern : String := defaultImagePattern
  fontPattern : String := defaultFontPattern
  limit : Nat := defaultLimit
  hash : Bool := false
  slash : Bool := false
deriving DecidableEq, Repr

/-- The settings with one field set, if the value is of its type. -/
def Settings.set? (s : Settings) : Field → Toml.Item → Option Settings
  | .imageOutput, .value (.string text) => some { s with imageOutput := some ⟨text⟩ }
  | .fontOutput, .value (.string text) => some { s with fontOutput := some ⟨text⟩ }
  | .cssOutput, .value (.string text) => some { s with cssOutput := some ⟨text⟩ }
  | .imagePattern, .value (.string text) => some { s with imagePattern := text }
  | .fontPattern, .value (.string text) => some { s with fontPattern := text }
  | .limit, .value (.integer n) => if 0 ≤ n then some { s with limit := n.toNat } else none
  | .hash, .value (.boolean b) => some { s with hash := b }
  | .slash, .value (.boolean b) => some { s with slash := b }
  | _, _ => none

/-- Reads the entries of a table: the settings, and the names that are no fields. -/
def Settings.ofEntries (s : Settings) (seen : List Field) :
    List (String × Toml.Item) → Except ConfigTextError (Settings × List String)
  | [] => .ok (s, [])
  | (name, item) :: rest =>
    match Field.ofName? name with
    | none => do
      let (s, unknown) ← ofEntries s seen rest
      return (s, name :: unknown)
    | some field => do
      if seen.contains field then throw (.repeatedField name)
      match s.set? field item with
      | none => throw (.wrongType name)
      | some s => ofEntries s (field :: seen) rest

def Settings.parse (text : String) : Except ConfigTextError (Settings × List String) :=
  match Toml.parse text with
  | .error e => .error (.toml e)
  | .ok table => Settings.ofEntries {} [] table.entries

/-- Reads a pattern, or says what is wrong with it. -/
def readPattern (field source standard : String) : Except Diagnostic Pattern :=
  if source.isEmpty then
    .error ⟨field, "pattern is empty and would match every path",
      some ("remove the field to use the default `" ++ standard ++ "`")⟩
  else
    match Pattern.ofSource source with
    | .ok pattern => .ok pattern
    | .error _ => .error ⟨field, "invalid regular expression: ...", none⟩

/-- The configuration of some settings. Both patterns are looked at before anything is refused. -/
def ofSettings (s : Settings) (workDir : Path) : Except ConfigError Config :=
  let resolve (p : Option Path) : Option Path := p.map (·.absolutize workDir)
  match readPattern "img_extensions" s.imagePattern defaultImagePattern,
    readPattern "font_extensions" s.fontPattern defaultFontPattern with
  | .ok imagePattern, .ok fontPattern =>
    .ok {
      imageOutput := resolve s.imageOutput
      fontOutput := resolve s.fontOutput
      cssOutput := resolve s.cssOutput
      imagePattern
      fontPattern
      limit := s.limit
      hash := s.hash
      slash := s.slash
      workDir }
  | .error d, .ok _ => .error (.invalid [d])
  | .ok _, .error d => .error (.invalid [d])
  | .error d, .error d' => .error (.invalid [d, d'])

def ofText (text : String) (workDir : Path) : Except ConfigError Config :=
  match Settings.parse text with
  | .error e => .error (.malformed e)
  | .ok (settings, _) => ofSettings settings workDir

def warnUnknown (names : List String) (path : Path) : StateM Session Unit := do
  if !names.isEmpty then
    Session.say "warning"
      ("unknown fields in " ++ path.fileName?.getD path.text ++ ", ignoring:")
    for name in names do
      Session.record (.complained ("- " ++ name))

/-- Reads a configuration from a file, and says whether there was one. -/
def load (path workDir : Path) : ExceptT ConfigError (StateM Session) (Config × Bool) := do
  match ← Session.readText path with
  | .error .notFound => return (new workDir, false)
  | .error cause => throw (.unreadable path cause)
  | .ok text =>
    match Settings.parse text with
    | .error e => throw (.malformed e)
    | .ok (settings, unknown) =>
      warnUnknown unknown path
      match ofSettings settings workDir with
      | .error e => throw e
      | .ok config => return (config, true)

end Config

end StylesheetAssets
