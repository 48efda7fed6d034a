import StylesheetAssets.Pattern.Compiled

/-!
Kinds of assets.
-/
namespace StylesheetAssets

/-- What kind of file a reference names. -/
inductive Category where
  | image
  | font
  | unsupported
deriving DecidableEq, Inhabited, Repr

namespace Category

def name : Category → String
  | image => "image"
  | font => "font"
  | unsupported => "unsupported"

/-- The kind of a path without suffix. A path that both patterns match is an image. -/
def classify (path : String) (images fonts : Pattern) : Category :=
  if images.isMatch path then image
  else if fonts.isMatch path then font
  else unsupported

end Category

end StylesheetAssets
