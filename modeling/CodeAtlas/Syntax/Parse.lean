import CodeAtlas.Parsing.Run
import CodeAtlas.Syntax.Node

/-!
# From pieces to syntax trees

Pieces whose symbol has no nodes are left out of a tree; their parts take their place.

- `Piece.toNode`: the node that a piece stands for.
- `Piece.roleIndex`: where the child with a role is found.
- `parse`: the syntax tree of a text.
-/

namespace CodeAtlas

namespace Piece

/-! ## Roles -/

/-- The number of nodes that a piece gives to the piece that it is a part of. -/
def nodeCount (name : Option Kind) (p : Piece) : Nat :=
  if name.isSome || p.info.visible then 1 else p.info.visibleChildren

mutual

/-- The index among the children of a piece of the child with a role. -/
def roleIndex (g : Grammar) (role : Field) : Piece → Option Nat
  | mk i cs =>
    let production := g.production i.production
    roleAmong g role production.aliases (production.slots role) 0 0 cs

/-- The same among the parts from the one at an index on; `before` children precede it. A slot
that gives no child is passed over. -/
def roleAmong (g : Grammar) (role : Field) :
    List (Option Kind) → List FieldSlot → Nat → Nat → List Piece → Option Nat
  | _, _, _, _, [] => none
  | _, [], _, _, _ => none
  | names, slot :: slots, index, before, c :: rest =>
    if c.isExtra then
      roleAmong g role names (slot :: slots) index (before + nodeCount none c) rest
    else
      let after := before + nodeCount (names.headD none) c
      if index < slot.index then
        roleAmong g role names.tail (slot :: slots) (index + 1) after rest
      else
        let found := match slot with
          | .own _ => if after = before then none else some before
          | .inherited _ => (roleIndex g role c).map (before + ·)
        match found with
        | some i => some i
        | none => roleAmong g role names.tail slots (index + 1) after rest

end

def roles (g : Grammar) (p : Piece) : List (Field × Nat) :=
  if (g.production p.info.production).fields.isEmpty then []
  else Field.all.filterMap fun role => (roleIndex g role p).map (role, ·)

/-! ## Nodes -/

def kindOf (g : Grammar) (symbol : SymbolId) : Kind :=
  match g.info symbol with
  | .visible kind => kind
  | .hidden name => .other name

/-- The node of a piece with the given children, under a new kind if one is given. -/
def nodeWith (g : Grammar) (name : Option Kind) (p : Piece) (children : List Node) : Node :=
  .mk
    { kind := name.getD (kindOf g p.symbol)
      missing := p.info.missing
      faulty := 0 < p.cost
      start := p.info.start
      stop := p.info.stop
      roles := roles g p }
    children

mutual

/-- The nodes that a part stands for: one, or those of its own parts. -/
def nodes (g : Grammar) (name : Option Kind) : Piece → List Node
  | mk i cs =>
    let children := childNodes g (g.production i.production).aliases cs
    if name.isSome || i.visible then [nodeWith g name (mk i cs) children] else children

/-- The nodes that some parts stand for, with the names that a production gives. -/
def childNodes (g : Grammar) : List (Option Kind) → List Piece → List Node
  | _, [] => []
  | names, c :: rest =>
    if c.isExtra then nodes g none c ++ childNodes g names rest
    else nodes g (names.headD none) c ++ childNodes g names.tail rest

end

def toNode (g : Grammar) (p : Piece) : Node :=
  nodeWith g none p (childNodes g (g.production p.info.production).aliases p.children)

end Piece

/-- The syntax tree of a text. If the parser finds no reading at all, which does not happen, the
whole text is an error. -/
def parse (g : Grammar) (src : Source) : SyntaxTree :=
  match parsePieces g src with
  | some p => ⟨src, p.toNode g⟩
  | none => ⟨src, .mk ⟨.error, false, true, 0, src.size, []⟩ []⟩

end CodeAtlas
