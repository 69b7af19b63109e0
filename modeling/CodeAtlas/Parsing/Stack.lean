import CodeAtlas.Parsing.Piece

/-!
# Stacks with a common history

The readings of an ambiguous or faulty text share what they have in common: their stacks form a
graph whose vertices are parser states and whose links carry pieces and lead down.

- `Vertex`, `Link`, `Graph`: the graph; vertices are numbered in the order of their creation.
- `Graph.extend`: a new vertex on top of another one.
- `Graph.addLink`: a further way down from a vertex.
- `Graph.walk`: follows all ways down from a vertex at the same pace.
- `Graph.pop`, `Graph.popError`, `Graph.popAll`: what the ways down to some depth carry.
-/

namespace CodeAtlas

/-! ## The graph -/

abbrev VertexId := Nat

/-- A way down from a vertex, with the piece that lies between. Where an error was met there may
be no piece. -/
structure Link where
  target : VertexId
  piece : Option Piece
  deriving Inhabited

/-- A parser state on a stack, with totals over the pieces below it. -/
structure Vertex where
  state : StateId
  position : Position
  cost : Nat
  /-- The weight of the pieces, as a measure of progress. -/
  count : Nat
  precedence : Int
  links : List Link
  deriving Inhabited

structure Graph where
  vertices : Array Vertex
  deriving Inhabited

namespace Link

def precedence (l : Link) : Int := (l.piece.map (·.info.precedence)).getD 0

def weight (l : Link) : Nat := (l.piece.map Piece.weight).getD 0

def similar (src : Source) (l m : Link) : Bool :=
  match l.piece, m.piece with
  | some p, some q => p.similar src q
  | none, none => true
  | _, _ => false

end Link

namespace Graph

def start : Graph := ⟨#[⟨startState, 0, 0, 0, 0, []⟩]⟩

def vertex (g : Graph) (v : VertexId) : Vertex := g.vertices.getD v default

def update (g : Graph) (v : VertexId) (x : Vertex) : Graph :=
  ⟨g.vertices.setIfInBounds v x⟩

def extend (g : Graph) (v : VertexId) (piece : Option Piece) (state : StateId) :
    Graph × VertexId :=
  let below := g.vertex v
  let link : Link := ⟨v, piece⟩
  let top : Vertex := match piece with
    | none => { below with state := state, links := [link] }
    | some p =>
      { state := state
        position := below.position + (p.info.stop - p.info.blank)
        cost := below.cost + p.cost
        count := below.count + p.weight
        precedence := below.precedence + p.info.precedence
        links := [link] }
  (⟨g.vertices.push top⟩, g.vertices.size)

/-- A vertex has at most this many ways down. -/
def maxLinks : Nat := 8

/-- The links of a vertex, with the piece of the link at an index replaced. -/
def replacePiece (piece : Option Piece) : Nat → List Link → List Link
  | _, [] => []
  | 0, l :: rest => ⟨l.target, piece⟩ :: rest
  | i + 1, l :: rest => l :: replacePiece piece i rest

def alike (g : Graph) (v w : VertexId) : Bool :=
  let a := g.vertex v
  let b := g.vertex w
  a.state == b.state && a.position == b.position && a.cost == b.cost

/-- Adds a way down to a vertex. If an old link carries an interchangeable piece and leads to the
same vertex, the piece of larger precedence stays; if it leads to a vertex in the same situation,
the two lower vertices are joined instead. The first argument bounds the depth of such joins. -/
def addLink (src : Source) : Nat → Graph → VertexId → Link → Graph
  | 0, g, _, _ => g
  | fuel + 1, g, v, link =>
    let x := g.vertex v
    let below := g.vertex link.target
    let takesUp (old : Link) : Bool :=
      old.similar src link && (old.target == link.target || g.alike old.target link.target)
    if link.target = v then g
    else
      match x.links.findIdx? takesUp with
      | some i =>
        let old := x.links.getD i default
        if old.target = link.target then
          if old.precedence < link.precedence then
            g.update v { x with
              links := replacePiece link.piece i x.links
              precedence := below.precedence + link.precedence }
          else g
        else
          let g := below.links.foldl (fun g l => addLink src fuel g old.target l) g
          let x := g.vertex v
          g.update v { x with precedence := max x.precedence (below.precedence + link.precedence) }
      | none =>
        if x.links.length = maxLinks then g
        else
          g.update v { x with
            links := x.links ++ [link]
            count := max x.count (below.count + link.weight)
            precedence := max x.precedence (below.precedence + link.precedence) }

def join (src : Source) (g : Graph) (v w : VertexId) : Graph :=
  (g.vertex w).links.foldl (fun g l => addLink src (g.vertices.size + 1) g v l) g

/-! ## Ways down -/

/-- A way down from a vertex: where it has come, what it carries in the order of the text, and how
many pieces that are not extra it has passed. -/
structure Trail where
  vertex : VertexId
  pieces : List Piece
  depth : Nat

def Trail.follow (t : Trail) (l : Link) : Trail :=
  match l.piece with
  | none => ⟨l.target, t.pieces, t.depth + 1⟩
  | some p => ⟨l.target, p :: t.pieces, if p.isExtra then t.depth else t.depth + 1⟩

/-- At most this many ways are followed at a time. -/
def maxTrails : Nat := 64

/-- Follows the links of a trail but the first, as long as there is room. -/
def branchOff (t : Trail) : List Link → Nat → List Trail → Nat × List Trail
  | [], total, branched => (total, branched)
  | l :: rest, total, branched =>
    if maxTrails ≤ total then branchOff t rest total branched
    else branchOff t rest (total + 1) (branched ++ [t.follow l])

variable {α : Type}

/-- One step of every trail. A visitor sees each trail before its step, and says whether it ends
there. -/
def walkRound (g : Graph) (visit : α → Trail → α × Bool) :
    List Trail → Nat → α → List Trail → List Trail → α × List Trail
  | [], _, acc, kept, branched => (acc, kept ++ branched)
  | t :: pending, total, acc, kept, branched =>
    let (acc, stop) := visit acc t
    match stop, (g.vertex t.vertex).links with
    | false, first :: others =>
      let (total, branched) := branchOff t others total branched
      walkRound g visit pending total acc (kept ++ [t.follow first]) branched
    | _, _ => walkRound g visit pending (total - 1) acc kept branched

def walkRounds (g : Graph) (visit : α → Trail → α × Bool) : Nat → List Trail → α → α
  | 0, _, acc => acc
  | _, [], acc => acc
  | fuel + 1, t :: rest, acc =>
    let trails := t :: rest
    let (acc, trails) := walkRound g visit trails trails.length acc [] []
    walkRounds g visit fuel trails acc

/-- Follows all ways down from a vertex; longer than the number of vertices is no way. -/
def walk (g : Graph) (v : VertexId) (visit : α → Trail → α × Bool) (acc : α) : α :=
  walkRounds g visit (g.vertices.size + 1) [⟨v, [], 0⟩] acc

/-! ## Taking pieces off -/

structure Reached where
  vertex : VertexId
  readings : List (List Piece)

/-- Adds a reading; vertices stay in the order in which they were reached first. -/
def addReading (v : VertexId) (pieces : List Piece) : List Reached → List Reached
  | [] => [⟨v, [pieces]⟩]
  | r :: rest =>
    if r.vertex = v then ⟨v, r.readings ++ [pieces]⟩ :: rest
    else r :: addReading v pieces rest

/-- What is reached below the top `count` pieces of a vertex, extras not counted. -/
def pop (g : Graph) (v : VertexId) (count : Nat) : List Reached :=
  g.walk v (fun acc t =>
    if t.depth = count then (addReading t.vertex t.pieces acc, true) else (acc, false)) []

def popAll (g : Graph) (v : VertexId) : List Reached :=
  g.walk v (fun acc t =>
    if (g.vertex t.vertex).links.isEmpty then (addReading t.vertex t.pieces acc, false)
    else (acc, false)) []

/-- The first stretch of left out text that lies directly on top, and the vertex below it. -/
def popError (g : Graph) (v : VertexId) : Option (VertexId × Piece) :=
  let onTop := (g.vertex v).links.any fun l =>
    (l.piece.map (fun p => p.symbol == errorSymbol)).getD false
  if onTop then
    g.walk v (fun acc t =>
      match t.pieces with
      | [] => (acc, false)
      | p :: _ =>
        match acc with
        | none => if p.symbol = errorSymbol then (some (t.vertex, p), true) else (none, true)
        | some found => (some found, true)) none
  else none

/-! ## What lies below -/

/-- A state below the top of a stack, to which the parser might return. -/
structure Below where
  position : Position
  depth : Nat
  state : StateId
  deriving Repr

def maxDepth : Nat := 16

/-- Is there an entry of this depth and state already, among the last ones of the depth? -/
def known (depth : Nat) (state : StateId) : List Below → Bool
  | [] => false
  | e :: rest =>
    if e.depth < depth then false
    else (e.depth = depth && e.state = state) || known depth state rest

def summary (g : Graph) (v : VertexId) : List Below :=
  (g.walk v (fun acc t =>
    let x := g.vertex t.vertex
    if maxDepth < t.depth then (acc, true)
    else if known t.depth x.state acc then (acc, false)
    else (⟨x.position, t.depth, x.state⟩ :: acc, false)) []).reverse

end Graph

end CodeAtlas
