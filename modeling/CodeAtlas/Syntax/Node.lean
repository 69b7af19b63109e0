import CodeAtlas.Text.Source
import CodeAtlas.Syntax.Kind

/-!
# Syntax trees

- `Node`: a node with its kind, its place in the text and its children.
- `Node.child?`: the child with a given role.
- `Node.namedChildren`: the children that are no fixed texts.
- `Node.text`: the text that a node covers.
- `Node.preorder`: a node and all nodes below it, parents first.
-/

namespace CodeAtlas

structure NodeInfo where
  kind : Kind
  /-- Was the node made up, because the text lacks it? -/
  missing : Bool
  /-- Is there an error in the node or below it? -/
  faulty : Bool
  start : Position
  stop : Position
  /-- The roles of children, by their index. -/
  roles : List (Field × Nat)
  deriving DecidableEq, Inhabited, Repr

inductive Node where
  | mk (info : NodeInfo) (children : List Node)
  deriving Inhabited, Repr

namespace Node

def info : Node → NodeInfo
  | mk i _ => i

def children : Node → List Node
  | mk _ cs => cs

def kind (n : Node) : Kind := n.info.kind

def isMissing (n : Node) : Bool := n.info.missing

def isFaulty (n : Node) : Bool := n.info.faulty

/-- Does the node stand for text that the grammar could not place? -/
def isError (n : Node) : Bool := n.kind == .error

def child? (n : Node) (role : Field) : Option Node :=
  (n.info.roles.lookup role).bind (n.children[·]?)

def namedChildren (n : Node) : List Node := n.children.filter (·.kind.isNamed)

def text (src : Source) (n : Node) : List Char := src.sliceList n.info.start n.info.stop

/-- The line on which a node begins; lines are counted from one. -/
def line (src : Source) (n : Node) : Nat := src.row n.info.start + 1

mutual

def size : Node → Nat
  | mk _ cs => sizes cs + 1

def sizes : List Node → Nat
  | [] => 0
  | c :: cs => size c + sizes cs

end

mutual

/-- A node and all nodes below it, parents first and children from left to right. -/
def preorder : Node → List Node
  | mk i cs => mk i cs :: preorders cs

def preorders : List Node → List Node
  | [] => []
  | c :: cs => preorder c ++ preorders cs

end

end Node

structure SyntaxTree where
  source : Source
  root : Node

end CodeAtlas
