import CodeAtlas.Syntax.Node

/-!
# Walking through a tree

A cursor stands on a node of a tree and remembers the way from the root.

- `Cursor`: the node, its ancestors, and what is to the right of each.
- `Cursor.firstChild?`, `Cursor.nextSibling?`: single moves.
- `Cursor.past?`: to the next node outside the subtree of the present one.
- `Cursor.next?`: to the next node, parents before children.
- `Cursor.walk`: the places that a cursor passes on its way.
-/

namespace CodeAtlas

/-- A step on the way from the root: a node that was entered, and the children to the right of
the one that was taken. -/
structure Frame where
  parent : Node
  right : List Node
  deriving Inhabited

/-- A node of a tree and the way to it, the nearest ancestor first. -/
structure Cursor where
  node : Node
  frames : List Frame
  deriving Inhabited

namespace Cursor

def ofRoot (root : Node) : Cursor := ⟨root, []⟩

/-- The ancestors, the nearest one first. -/
def ancestors (c : Cursor) : List Node := c.frames.map (·.parent)

def parentNode? (c : Cursor) : Option Node := c.ancestors.head?

def firstChild? (c : Cursor) : Option Cursor :=
  match c.node.children with
  | [] => none
  | child :: right => some ⟨child, ⟨c.node, right⟩ :: c.frames⟩

def nextSibling? (c : Cursor) : Option Cursor :=
  match c.frames with
  | ⟨parent, sibling :: right⟩ :: above => some ⟨sibling, ⟨parent, right⟩ :: above⟩
  | _ => none

/-- Up along the frames until there is a node to the right. -/
def climb? (node : Node) : List Frame → Option Cursor
  | [] => none
  | frame :: above =>
    match nextSibling? ⟨node, frame :: above⟩ with
    | some c => some c
    | none => climb? frame.parent above

/-- To the next node that does not lie below the present one. -/
def past? (c : Cursor) : Option Cursor := climb? c.node c.frames

/-- To the next node of the tree, parents before children. -/
def next? (c : Cursor) : Option Cursor :=
  match c.firstChild? with
  | some child => some child
  | none => c.past?

/-- The places that a cursor passes when it moves by `move`, at most so many. -/
def walk (move : Cursor → Option Cursor) : Nat → Cursor → List Cursor
  | 0, _ => []
  | count + 1, c =>
    c :: match move c with
      | some d => walk move count d
      | none => []

/-- All places of a tree, parents before children. -/
def all (root : Node) : List Cursor := walk next? root.size (ofRoot root)

end Cursor

end CodeAtlas
