import StylesheetAssets.Disk.Basic
import StylesheetAssets.Import.Provenance

/-!
Why a stylesheet could not be rewritten.
-/
namespace StylesheetAssets

inductive RewriteError where
  /-- An asset is missing or cannot be read. -/
  | asset (path : Path) (cause : DiskError)
  | outputDirectory (path : Path) (cause : DiskError)
  | copy (source destination : Path) (cause : DiskError)
  | unterminated (span : Import.Unterminated)
  /-- The stylesheet belongs to no file, so that its references lead nowhere. -/
  | noSource
deriving DecidableEq, Repr

namespace RewriteError

def message : RewriteError → String
  | asset path _ => "cannot read asset `" ++ path.text ++ "`"
  | outputDirectory path _ => "cannot create output directory `" ++ path.text ++ "`"
  | copy source destination _ =>
    "failed to copy `" ++ source.text ++ "` to `" ++ destination.text ++ "`"
  | unterminated span =>
    "import of `" ++ span.path ++ "` is never closed (start marker at node " ++
      toString span.start ++ " has no end marker)"
  | noSource => "stylesheet root has no source file"

/-- What the disk said. -/
def cause? : RewriteError → Option DiskError
  | asset _ cause => some cause
  | outputDirectory _ cause => some cause
  | copy _ _ cause => some cause
  | unterminated _ => none
  | noSource => none

end RewriteError

end StylesheetAssets
