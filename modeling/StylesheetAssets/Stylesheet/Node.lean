/-!
Stylesheet trees.
-/
namespace StylesheetAssets.Stylesheet

inductive Node where
  /-- `selector { nodes }` -/
  | rule (selector : String) (nodes : List Node)
  /-- `@name params { nodes }` -/
  | atBlock (name params : String) (nodes : List Node)
  /-- `@name params;` -/
  | atStatement (name params : String)
  /-- `property: value;` -/
  | declaration (property value : String)
  | comment (text : String)
deriving Inhabited, Repr

namespace Node

/-- The nodes between the braces, if the node has braces. -/
def children? : Node → Option (List Node)
  | rule _ nodes => some nodes
  | atBlock _ _ nodes => some nodes
  | _ => none

/-- The value of a declaration, the only place where references stand. -/
def value? : Node → Option String
  | declaration _ value => some value
  | _ => none

def commentText? : Node → Option String
  | comment text => some text
  | _ => none

/-- Rules and at-rules of either form. -/
def isRule : Node → Bool
  | rule .. => true
  | atBlock .. => true
  | atStatement .. => true
  | _ => false

end Node

end StylesheetAssets.Stylesheet
