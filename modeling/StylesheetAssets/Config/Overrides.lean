import StylesheetAssets.Config.Basic

/-!
What the command line says over the configuration file.
-/
namespace StylesheetAssets

structure Overrides where
  imageOutput : Option Path := none
  fontOutput : Option Path := none
  cssOutput : Option Path := none
  limit : Option Nat := none
  hash : Option Bool := none
  slash : Option Bool := none
deriving DecidableEq, Inhabited, Repr

namespace Config

/-- The configuration with an output directory, if one is given. -/
def setOutput? (c : Config) (category : Category) (dir : Option Path) : Config :=
  match dir with
  | some dir => c.setOutput category dir
  | none => c

/-- The configuration with another directory for references to start from, if one is given. -/
def setCssOutput? (c : Config) (dir : Option Path) : Config :=
  match dir with
  | some dir => c.setCssOutput dir
  | none => c

/-- The configuration with all overrides in place. References start from the directory that the
stylesheets are written to, unless another one is given here or there. -/
def withOverrides (c : Config) (o : Overrides) (outDir : Path) : Config :=
  let c := (c.setOutput? .image o.imageOutput).setOutput? .font o.fontOutput
  let c := c.setCssOutput? o.cssOutput
  let c := if c.cssOutput.isNone then c.setCssOutput outDir else c
  { c with
    limit := o.limit.getD c.limit
    hash := o.hash.getD c.hash
    slash := o.slash.getD c.slash }

end Config

end StylesheetAssets
