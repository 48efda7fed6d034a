import StylesheetAssets.Stylesheet.Node

/-!
Walks over the declaration values of a tree, depth first and in order.

The visitor answers each value with its new text or with a failure. After the first failure
nothing more is visited: the walk answers the tree as it then stands, together with the failure.
-/
namespace StylesheetAssets.Stylesheet

variable {m : Type → Type} [Monad m] {ε : Type}

mutual

def Node.visitValues (visit : String → m (Except ε String)) : Node → m (Node × Option ε)
  | .declaration property value => do
    match ← visit value with
    | .ok value => return (.declaration property value, none)
    | .error failure => return (.declaration property value, some failure)
  | .rule selector nodes => do
    let (nodes, failure) ← visitAll visit nodes
    return (.rule selector nodes, failure)
  | .atBlock name params nodes => do
    let (nodes, failure) ← visitAll visit nodes
    return (.atBlock name params nodes, failure)
  | node => return (node, none)

/-- Visits the values of all nodes, up to the first failure. -/
def visitAll (visit : String → m (Except ε String)) : List Node → m (List Node × Option ε)
  | [] => return ([], none)
  | node :: rest => do
    match ← node.visitValues visit with
    | (node, some failure) => return (node :: rest, some failure)
    | (node, none) =>
      let (rest, failure) ← visitAll visit rest
      return (node :: rest, failure)

end

mutual

/-- The values of a node, in the order of the walk. -/
def Node.values : Node → List String
  | .declaration _ value => [value]
  | .rule _ nodes => valuesOfAll nodes
  | .atBlock _ _ nodes => valuesOfAll nodes
  | _ => []

def valuesOfAll : List Node → List String
  | [] => []
  | node :: rest => node.values ++ valuesOfAll rest

end

end StylesheetAssets.Stylesheet
