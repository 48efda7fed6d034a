import StylesheetAssets.Path.Basic
import StylesheetAssets.Stylesheet.Node
import StylesheetAssets.Stylesheet.Token

/-!
Trees from tokens.

Tokens are read from the last to the first, so that a head finds its children already built. A
closing brace without a head in front of it is ignored, and a block that is never closed ends with
the text: every list of tokens is the tree of some nodes.
-/
namespace StylesheetAssets.Stylesheet

/-- Name and parameters of an at-rule whose head is `@` followed by `body`. -/
def splitAtRule (body : List Char) : String × String :=
  let (name, params) :=
    Text.splitAt (fun c => Text.isAsciiBlank c || c == '(' || c == '"' || c == '\'') body
  (String.ofList name, String.ofList (Text.trim params))

def blockNode (head : List Char) (nodes : List Node) : Node :=
  match head with
  | '@' :: body => .atBlock (splitAtRule body).1 (splitAtRule body).2 nodes
  | _ => .rule (String.ofList head) nodes

/-- The declaration in `head`, split at the first colon. Without one the value is empty. -/
def declarationNode (head : List Char) : Node :=
  match Text.splitAt (· == ':') head with
  | (property, ':' :: value) =>
    .declaration (String.ofList (Text.trim property)) (String.ofList (Text.trim value))
  | _ => .declaration (String.ofList head) ""

/-- The node of a head without a block, if it says anything. -/
def statementNode? (head : List Char) : Option Node :=
  match head with
  | [] => none
  | '@' :: body => some (.atStatement (splitAtRule body).1 (splitAtRule body).2)
  | _ => some (declarationNode head)

/-- Lists of nodes under construction: the innermost open one, and those around it. -/
structure Levels where
  current : List Node := []
  outer : List (List Node) := []
deriving Repr

namespace Levels

def push (l : Levels) (node : Node) : Levels := { l with current := node :: l.current }

/-- Puts one token in front. -/
def add (token : Token) (l : Levels) : Levels :=
  match token with
  | .comment text => l.push (.comment (String.ofList text))
  | .statement head =>
    match statementNode? head with
    | some node => l.push node
    | none => l
  | .closing => ⟨[], l.current :: l.outer⟩
  | .opening head => ⟨blockNode head l.current :: l.outer.headD [], l.outer.tail⟩

/-- All nodes, levels that no head claims included. -/
def toNodes (l : Levels) : List Node := l.current ++ l.outer.flatten

end Levels

def nodesOfTokens (tokens : List Token) : List Node := (tokens.foldr Levels.add {}).toNodes

/-- The nodes of a text. Every text has some. -/
def parseNodes (source : List Char) : List Node := nodesOfTokens (Token.scan source)

/-- A stylesheet and the file it was read from, where there is one. -/
structure Sheet where
  nodes : List Node
  source : Option Path

def parse (source : String) (file : Option Path) : Sheet := ⟨parseNodes source.toList, file⟩

end StylesheetAssets.Stylesheet
