import StylesheetAssets.Path.Basic

/-!
Lexical resolution of paths: no file is looked at.
-/
namespace StylesheetAssets.Path

/-- One step of normalization. The stack holds the components kept so far, the last one on top.
A `..` takes the name on top away, is lost at the root, and is kept where nothing is left. -/
def normalizeStep (stack : List Component) : Component → List Component
  | .here => stack
  | .parent =>
    match stack with
    | .name _ :: rest => rest
    | .root :: _ => stack
    | _ => .parent :: stack
  | c => c :: stack

/-- The components without `.` and without any `..` that follows a name or the root. -/
def normalComponents (p : Path) : List Component :=
  (p.components.foldl normalizeStep []).reverse

def normalize (p : Path) : Path := ofComponents p.normalComponents

/-- `p` anchored at `base` if it is relative, then normalized. -/
def absolutize (p base : Path) : Path := normalize (base.join p)

/-- What is left of two lists after their longest common start. -/
def dropCommon : List Component → List Component → List Component × List Component
  | a :: as, b :: bs => if a = b then dropCommon as bs else (a :: as, b :: bs)
  | as, bs => (as, bs)

/-- `p` as seen from the directory `base`: one `..` for each component of `base` beyond the
common start, then the rest of `p`. -/
def relativeTo (p base : Path) : Path :=
  let (rest, up) := dropCommon p.normalize.components base.normalize.components
  ofComponents (up.map (fun _ => .parent) ++ rest)

def toSlash (p : Path) : String := p.text.map fun c => if c = '\\' then '/' else c

end StylesheetAssets.Path
