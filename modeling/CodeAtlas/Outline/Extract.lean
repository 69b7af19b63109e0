import CodeAtlas.Outline.Route
import CodeAtlas.Outline.Symbol
import CodeAtlas.Syntax.Cursor

/-!
# Finding symbols in a tree

- `Cursor.symbol?`: the symbol that a node declares, if it declares one.
- `symbolsOf`: all symbols of a tree, in the order of the text.
-/

namespace CodeAtlas

namespace Node

def childText? (src : Source) (n : Node) (role : Field) : Option (List Char) :=
  (n.child? role).map (text src)

mutual

/-- What is inside parentheses, however often they are repeated; comments are passed over. -/
def unwrapped? : Node → Option Node
  | mk i cs => if i.kind = .parenthesizedExpression then firstUnwrapped? cs else some (mk i cs)

/-- The first of some nodes that is neither a fixed text nor a comment, without parentheses. -/
def firstUnwrapped? : List Node → Option Node
  | [] => none
  | c :: cs => if c.kind.isNamed && !c.kind.isComment then unwrapped? c else firstUnwrapped? cs

end

def isFunctionValue (n : Node) : Bool :=
  match n.kind with
  | .arrowFunction | .functionExpression | .token "function" | .generatorFunction => true
  | _ => false

/-- The name of a variable that is bound to a function. -/
def functionVariable? (src : Source) (n : Node) : Option (List Char) :=
  match n.child? .name, (n.child? .value).bind unwrapped? with
  | some binding, some value =>
    if binding.kind == .identifier && value.isFunctionValue then some (binding.text src) else none
  | _, _ => none

def isQuote (c : Char) : Bool := c == '"' || c == '\''

/-- A text without the quotes at its start and at its end, however many there are. -/
def trimQuotes (text : List Char) : List Char :=
  ((text.dropWhile isQuote).reverse.dropWhile isQuote).reverse

/-- The name of a method by its key; private methods are left out. -/
def methodName? (src : Source) (method : Node) : Option (List Char) :=
  (method.child? .name).bind fun key =>
    match key.kind with
    | .privatePropertyIdentifier => none
    | .string => some (trimQuotes (key.text src))
    | _ => some (key.text src)

end Node

namespace Cursor

/-- The sort and name of the symbol that a node declares. Only methods in the body of a class
count. -/
def declared? (src : Source) (c : Cursor) : Option (SymbolKind × List Char) :=
  let n := c.node
  match n.kind with
  | .functionDeclaration | .generatorFunctionDeclaration =>
    (n.childText? src .name).map (.function, ·)
  | .variableDeclarator => (n.functionVariable? src).map (.function, ·)
  | .classDeclaration | .abstractClassDeclaration => (n.childText? src .name).map (.classDecl, ·)
  | .methodDefinition =>
    if c.parentNode?.any (·.kind == .classBody) then (n.methodName? src).map (.method, ·)
    else none
  | .callExpression => (n.routeLabel? src).map (.route, ·)
  | _ => none

/-- The symbol that a node declares, with its line if lines are asked for. -/
def symbol? (src : Source) (lines : Bool) (c : Cursor) : Option Symbol :=
  (c.declared? src).map fun (kind, name) =>
    ⟨kind, String.ofList name, if lines then some (c.node.line src) else none⟩

end Cursor

/-- All symbols of a tree, in the order of the text. -/
def symbolsOf (tree : SyntaxTree) (lines : Bool) : List Symbol :=
  (Cursor.all tree.root).filterMap (Cursor.symbol? tree.source lines)

/-- The labels of all calls of a tree, in the order of the text. -/
def routesOf (tree : SyntaxTree) : List (Option String) :=
  ((Cursor.all tree.root).filter (·.node.kind == .callExpression)).map fun c =>
    (c.node.routeLabel? tree.source).map String.ofList

end CodeAtlas
