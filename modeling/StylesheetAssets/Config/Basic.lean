import StylesheetAssets.Asset.Category
import StylesheetAssets.Path.Lexical

/-!
Configurations: where assets go and which of them are inlined.
-/
namespace StylesheetAssets

def defaultImagePattern : String := "\\.(png|jpg|jpeg|gif|svg)$"

def defaultFontPattern : String := "\\.(ttf|woff|woff2|eot)$"

/-- The size in bytes up to which assets are inlined. -/
def defaultLimit : Nat := 8192

def configFileName : String := "cssurl.toml"

structure Config where
  /-- Where images are copied to; without it references to images stay as they are. -/
  imageOutput : Option Path := none
  fontOutput : Option Path := none
  /-- The directory that rewritten references start from. -/
  cssOutput : Option Path := none
  imagePattern : Pattern
  fontPattern : Pattern
  limit : Nat := defaultLimit
  /-- Whether copies carry the hash of their content in their names. -/
  hash : Bool := false
  /-- Whether rewritten references start with `./`. -/
  slash : Bool := false
  workDir : Path
deriving DecidableEq, Repr

namespace Config

/-- The pattern of a text, or one that matches nothing. -/
def patternOf (source : String) : Pattern :=
  match Pattern.ofSource source with
  | .ok pattern => pattern
  | .error _ => ⟨source, .chars .empty⟩

/-- The configuration in which nothing is moved. -/
def new (workDir : Path) : Config where
  imagePattern := patternOf defaultImagePattern
  fontPattern := patternOf defaultFontPattern
  workDir := workDir

/-- The configuration with an output directory, which is found from the working directory. -/
def setOutput (c : Config) (category : Category) (dir : Path) : Config :=
  let dir := dir.absolutize c.workDir
  match category with
  | .image => { c with imageOutput := some dir }
  | .font => { c with fontOutput := some dir }
  | .unsupported => c

def setCssOutput (c : Config) (dir : Path) : Config :=
  { c with cssOutput := some (dir.absolutize c.workDir) }

def categoryOf (c : Config) (path : String) : Category :=
  .classify path c.imagePattern c.fontPattern

def outputDir? (c : Config) : Category → Option Path
  | .image => c.imageOutput
  | .font => c.fontOutput
  | .unsupported => none

/-- The kind and output directory of a path, unless its reference is to be left alone. -/
def route? (c : Config) (path : String) : Option (Category × Path) :=
  let category := c.categoryOf path
  (c.outputDir? category).map (category, ·)

end Config

end StylesheetAssets
