import StylesheetAssets.Stylesheet.Node

/-!
The written form of a tree: one node a line, two spaces for each level.
-/
namespace StylesheetAssets.Stylesheet

def indent (depth : Nat) : String := String.ofList (List.replicate (2 * depth) ' ')

def atRuleHead (name params : String) : String :=
  if params.isEmpty then "@" ++ name else "@" ++ name ++ " " ++ params

def declarationHead (property value : String) : String :=
  if value.isEmpty then property else property ++ ": " ++ value

mutual

def printNode (depth : Nat) : Node → String
  | .comment text => indent depth ++ "/* " ++ text ++ " */\n"
  | .declaration property value => indent depth ++ declarationHead property value ++ ";\n"
  | .atStatement name params => indent depth ++ atRuleHead name params ++ ";\n"
  | .rule selector nodes =>
    indent depth ++ selector ++ " \x7b\n" ++ printNodes (depth + 1) nodes ++
      indent depth ++ "\x7d\n"
  | .atBlock name params nodes =>
    indent depth ++ atRuleHead name params ++ " \x7b\n" ++ printNodes (depth + 1) nodes ++
      indent depth ++ "\x7d\n"

def printNodes (depth : Nat) : List Node → String
  | [] => ""
  | node :: rest => printNode depth node ++ printNodes depth rest

end

def print (nodes : List Node) : String := printNodes 0 nodes

end StylesheetAssets.Stylesheet
