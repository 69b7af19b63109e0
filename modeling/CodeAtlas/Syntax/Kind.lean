/-!
# Kinds of syntax nodes

- `Kind`: what a node of a syntax tree stands for. Kinds that matter to an outline have a
  constructor of their own, the others keep the name that the grammar gives them.
- `Field`: the role of a child in its parent, as far as an outline asks for it.
-/

namespace CodeAtlas

inductive Kind where
  /-- Text that the grammar could not place. -/
  | error
  | comment
  | htmlComment
  | identifier
  | propertyIdentifier
  | privatePropertyIdentifier
  | string
  | templateString
  | templateSubstitution
  | parenthesizedExpression
  | memberExpression
  | callExpression
  | arguments
  | arrowFunction
  | functionExpression
  | generatorFunction
  | functionDeclaration
  | generatorFunctionDeclaration
  | variableDeclarator
  | classDeclaration
  | abstractClassDeclaration
  | classBody
  | methodDefinition
  | jsxElement
  | jsxFragment
  /-- Any other construct, by its name in the grammar. -/
  | other (name : String)
  /-- A fixed text: a keyword, an operator or a punctuation mark. -/
  | token (text : String)
  deriving DecidableEq, Repr, Inhabited

namespace Kind

/-- Fixed texts are anonymous, all other kinds are named. -/
def isNamed : Kind → Bool
  | .token _ => false
  | _ => true

/-- Comments of the common form; a comment in HTML style is a kind of its own. -/
def isComment : Kind → Bool
  | .comment => true
  | _ => false

end Kind

inductive Field where
  | name
  | value
  | function
  | arguments
  | object
  | property
  | optionalChain
  deriving DecidableEq, Repr

namespace Field

def all : List Field := [.name, .value, .function, .arguments, .object, .property, .optionalChain]

end Field

end CodeAtlas
