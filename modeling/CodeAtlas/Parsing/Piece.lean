import CodeAtlas.Text.Source
import CodeAtlas.Parsing.Grammar

/-!
# Pieces of a parse

While a text is parsed, what has been recognised so far is held as pieces: tokens, and larger
pieces that a reduction has made of smaller ones. A piece knows what it costs, so that competing
readings of a faulty text can be compared.

- `Piece`: a token or a reduced piece, with its parts.
- `Piece.leaf`, `Piece.node`: a token and a reduced piece.
- `Piece.compare`: an order on pieces of the same text, by their symbols.
- `Piece.yieldsTo`: which of two readings of the same text is kept.
-/

namespace CodeAtlas

/-! ## Costs of errors -/

namespace Cost

/-- A stretch of text that is left out of the reading. -/
def recovery : Nat := 500

def missing : Nat := 110 + recovery

/-- A node, a character and a line of a stretch that is left out. -/
def node : Nat := 100
def byte : Nat := 1
def row : Nat := 30

def skipping (src : Source) (p q : Position) : Nat :=
  byte * src.bytesBetween p q + row * src.rowsBetween p q

end Cost

/-! ## Pieces -/

structure PieceInfo where
  symbol : SymbolId
  /-- Where the blanks in front of the piece begin. -/
  blank : Position
  start : Position
  stop : Position
  /-- Does the symbol have nodes of its own? -/
  visible : Bool
  /-- May the piece stand anywhere, as comments do? -/
  extra : Bool := false
  /-- Was the piece made up, because the text lacks it? -/
  missing : Bool := false
  /-- Could a word also be a keyword? -/
  keyword : Bool := false
  /-- The state in which a token was looked for. -/
  state : StateId := errorState
  /-- The production by which a reduced piece was made. -/
  production : Nat := 0
  /-- The cost of the errors among the parts. -/
  partsCost : Nat := 0
  precedence : Int := 0
  /-- The nodes that the parts have for children of this piece, and all nodes below it. -/
  visibleChildren : Nat := 0
  visibleDescendants : Nat := 0
  deriving Inhabited, Repr

inductive Piece where
  | mk (info : PieceInfo) (children : List Piece)
  deriving Inhabited

namespace Piece

def info : Piece → PieceInfo
  | mk i _ => i

def children : Piece → List Piece
  | mk _ cs => cs

def symbol (p : Piece) : SymbolId := p.info.symbol

def isExtra (p : Piece) : Bool := p.info.extra

/-- The same piece, as one that may or may not stand anywhere. -/
def withExtra (extra : Bool) (p : Piece) : Piece := mk { p.info with extra := extra } p.children

def cost (p : Piece) : Nat := if p.info.missing then Cost.missing else p.info.partsCost

/-- How much a piece adds to the progress of a reading. -/
def weight (p : Piece) : Nat :=
  p.info.visibleDescendants + (if p.info.visible then 1 else 0)
    + if p.symbol = skippedSymbol then 1 else 0

/-- A token. Only the end of the text is extra from the start. -/
def leaf (g : Grammar) (symbol : SymbolId) (blank start stop : Position) (state : StateId)
    (keyword : Bool) : Piece :=
  mk { symbol := symbol, blank := blank, start := start, stop := stop,
       visible := g.isVisible symbol, extra := symbol == endSymbol, keyword := keyword,
       state := state } []

def absent (g : Grammar) (symbol : SymbolId) (p : Position) : Piece :=
  mk { symbol := symbol, blank := p, start := p, stop := p, visible := g.isVisible symbol,
       missing := true } []

/-- Adds one part to the totals of a piece. A part that the production renames is visible. In a
stretch that is left out (`faulty`) every visible node costs. -/
def addPart (faulty renamed : Bool) (total : PieceInfo) (part : Piece) : PieceInfo :=
  let i := part.info
  let own := if part.symbol = skippedSymbol then 0 else part.cost
  let unplaced :=
    if !faulty || i.extra || (part.symbol = errorSymbol && part.children.isEmpty) then 0
    else if i.visible then Cost.node
    else if part.children.isEmpty then 0
    else Cost.node * i.visibleChildren
  let seen := renamed || i.visible
  { total with
    stop := i.stop
    partsCost := total.partsCost + own + unplaced
    precedence := total.precedence + i.precedence
    visibleChildren := total.visibleChildren + (if seen then 1 else i.visibleChildren)
    visibleDescendants := total.visibleDescendants + i.visibleDescendants
      + if seen then 1 else 0 }

/-- Adds the parts to the totals of a piece; extras take no part in the numbering of `names`. -/
def addParts (faulty : Bool) : List (Option Kind) → PieceInfo → List Piece → PieceInfo
  | _, total, [] => total
  | names, total, c :: rest =>
    if c.isExtra then addParts faulty names (addPart faulty false total c) rest
    else
      let renamed := (names.headD none).isSome
      addParts faulty names.tail (addPart faulty renamed total c) rest

/-- A piece of the given symbol with the given parts; without parts it stands at `empty`. -/
def node (g : Grammar) (src : Source) (empty : Position) (symbol : SymbolId)
    (production : Nat) (children : List Piece) : Piece :=
  let faulty := symbol == errorSymbol || symbol == skippedSymbol
  let (blank, start) := match children with
    | [] => (empty, empty)
    | c :: _ => (c.info.blank, c.info.start)
  let total := addParts faulty (g.production production).aliases
    { symbol := symbol, blank := blank, start := start, stop := start,
      visible := g.isVisible symbol, production := production } children
  let whole :=
    if faulty then Cost.recovery + Cost.skipping src total.start total.stop else 0
  mk { total with partsCost := total.partsCost + whole } children

/-! ## Choosing between pieces -/

mutual

/-- Compares two pieces by their symbols and numbers of parts, from the top down and from left to
right. -/
def compare : Piece → Piece → Ordering
  | mk i cs, mk j ds =>
    (Ord.compare i.symbol j.symbol).then <|
      (Ord.compare cs.length ds.length).then (compareAll cs ds)

def compareAll : List Piece → List Piece → Ordering
  | c :: cs, d :: ds => (compare c d).then (compareAll cs ds)
  | _, _ => .eq

end

/-- Is the second of two pieces kept rather than the first? The cheaper one is, then the one of
larger precedence, then among faulty ones the later, and among clean ones the smaller. -/
def yieldsTo (p q : Piece) : Bool :=
  if q.cost != p.cost then q.cost < p.cost
  else if q.info.precedence != p.info.precedence then p.info.precedence < q.info.precedence
  else 0 < p.cost || compare p q == .gt

/-- Pieces that are interchangeable on top of the same vertex of a stack. -/
def similar (src : Source) (p q : Piece) : Bool :=
  p.symbol == q.symbol &&
    ((0 < p.cost && 0 < q.cost) ||
      (src.bytesBetween p.info.blank p.info.start == src.bytesBetween q.info.blank q.info.start
        && src.bytesBetween p.info.start p.info.stop
          == src.bytesBetween q.info.start q.info.stop
        && p.children.length == q.children.length
        && p.isExtra == q.isExtra))

def splitExtras (pieces : List Piece) : List Piece × List Piece :=
  let trailing := (pieces.reverse.takeWhile isExtra).reverse
  (pieces.take (pieces.length - trailing.length), trailing)

end Piece

end CodeAtlas
