import CodeAtlas.Parsing.Session

/-!
# Reductions

A reduction takes pieces off a stack and pushes one piece that is made of them. Where the ways
down part, it does so on each of them.

- `Session.reduce`: one reduction of a reading.
- `Session.reduceAll`: all reductions that some token could call for.
- `Session.accept`: a reading is complete.
-/

namespace CodeAtlas

/-! ## One reduction -/

/-- So many readings are kept at most, -/
def maxBranches : Nat := 6

/-- and so many more while reductions are under way. -/
def surplusBranches : Nat := 4

namespace Reduction

/-- The piece that is made of a list of pieces; extras at the end stay outside. -/
def apply (g : Grammar) (src : Source) (empty : Position) (r : Reduction) (parts : List Piece) :
    Piece × List Piece :=
  let (inner, extras) := Piece.splitExtras parts
  (.node g src empty r.symbol r.production inner, extras)

/-- The best piece among several lists of pieces. Later candidates are weighed without the names
that the production gives. -/
def best (g : Grammar) (src : Source) (empty : Position) (r : Reduction) :
    Piece × List Piece → List (List Piece) → Piece × List Piece
  | kept, [] => kept
  | kept, parts :: rest =>
    let (inner, _) := Piece.splitExtras parts
    let kept :=
      if kept.1.yieldsTo (.node g src empty r.symbol 0 inner) then r.apply g src empty parts
      else kept
    best g src empty r kept rest

def weigh (r : Reduction) : Piece → Piece
  | .mk i cs => .mk { i with precedence := i.precedence + r.precedence } cs

end Reduction

namespace Session

/-- Ends a reduction of reading `b` at one of the vertices that it reached. -/
def reduceAt (g : Grammar) (src : Source) (b : Nat) (empty : Position) (r : Reduction)
    (s : Session) (reached : Graph.Reached) : Session :=
  if maxBranches + surplusBranches < s.size then s
  else
    match reached.readings with
    | [] => s
    | first :: rest =>
      let (piece, extras) := r.best g src empty (r.apply g src empty first) rest
      let next := g.next (s.graph.vertex reached.vertex).state r.symbol
      let c := s.size
      let s := ((s.fork b reached.vertex).push c (some (r.weigh piece)) next).pushAll c extras next
      (s.mergeFirst? src ((List.range c).filter (· != b)) c).getD s

/-- Reduces a reading. The results are new readings, the first of them at the given index. -/
def reduce (g : Grammar) (src : Source) (s : Session) (b : Nat) (r : Reduction) :
    Session × Option Nat :=
  let size := s.size
  let empty := (s.top b).position
  let reached := s.graph.pop (s.branch b).top r.count
  let s := reached.foldl (reduceAt g src b empty r) s
  (s, if size < s.size then some size else none)

/-! ## All reductions -/

/-- Adds a reduction unless one of the same symbol and length is there. -/
def addReduction (r : Reduction) (rs : List Reduction) : List Reduction :=
  if r.count = 0 || rs.any (fun q => q.symbol == r.symbol && q.count == r.count) then rs
  else rs ++ [r]

/-- The reductions that some of the actions ask for, and whether one of them takes a token. -/
def choices : List Action → List Reduction × Bool → List Reduction × Bool
  | [], found => found
  | .reduce r :: rest, (rs, takes) => choices rest (addReduction r rs, takes)
  | .shift _ :: rest, (rs, _) => choices rest (rs, true)
  | .recover :: rest, (rs, _) => choices rest (rs, true)
  | _ :: rest, found => choices rest found

/-- The choices in a state before a token, where the end of the text stands for any token. -/
def choicesBefore (g : Grammar) (s : StateId) (token : SymbolId) : List Reduction × Bool :=
  let tokens := if token = endSymbol then (List.range g.tokenCount).drop 1 else [token]
  tokens.foldl (fun found t => choices (g.actions s t) found) ([], false)

/-- Reduces a reading in some ways one after the other; the index is that of the last success if
the last one succeeded. -/
def reduceEach (g : Grammar) (src : Source) (b : Nat) :
    List Reduction → Session × Option Nat → Session × Option Nat
  | [], outcome => outcome
  | r :: rest, (s, _) => reduceEach g src b rest (s.reduce g src b r)

/-- Applies all reductions that could take place before a token to reading `b`, to what they give,
and so on; `base` is the number of readings at the start. A reading that cannot take the token in
the end is given up. Tells whether some reading can take it. -/
def reduceAllFrom (g : Grammar) (src : Source) (token : SymbolId) (origin base : Nat) :
    Nat → Nat → Nat → Bool → Session → Session × Bool
  | 0, _, _, takes, s => (s, takes)
  | fuel + 1, round, b, takes, s =>
    let size := s.size
    if size ≤ b then (s, takes)
    else
      match s.mergeFirst? src ((List.range b).drop base) b with
      | some s => reduceAllFrom g src token origin base fuel (round + 1) b takes s
      | none =>
        let (reductions, takesHere) := choicesBefore g (s.top b).state token
        let (s, last) := reduceEach g src b reductions (s, none)
        match last, !takesHere && round < maxBranches with
        | some c, true =>
          reduceAllFrom g src token origin base fuel (round + 1) b takes (s.replace c b)
        | _, _ =>
          let following := if b = origin then size else b + 1
          let s := if takesHere || token = endSymbol then s else s.remove b
          reduceAllFrom g src token origin base fuel (round + 1) following (takes || takesHere) s

def reduceAll (g : Grammar) (src : Source) (s : Session) (b : Nat) (token : SymbolId) :
    Session × Bool :=
  reduceAllFrom g src token b s.size 4096 0 b false s

/-! ## Complete readings -/

/-- The root of a complete reading: its parts and all extras around them in one piece. -/
def rootOf (g : Grammar) (src : Source) (pieces : List Piece) : Option Piece :=
  let after := (pieces.reverse.takeWhile Piece.isExtra).reverse
  match pieces.reverse.dropWhile Piece.isExtra with
  | [] => none
  | top :: before =>
    some <| .node g src 0 top.symbol top.info.production (before.reverse ++ top.children ++ after)

def keepBetter (old new : Option Piece) : Option Piece :=
  match old, new with
  | some p, some q => if p.yieldsTo q then some q else some p
  | none, q => q
  | p, none => p

def accept (g : Grammar) (src : Source) (s : Session) (b : Nat) (last : Piece) : Session :=
  let s := s.push b (some last) startState
  let readings := (s.graph.popAll (s.branch b).top).flatMap (·.readings)
  let s := readings.foldl (fun s pieces =>
    { s with
      accepted := s.accepted + 1
      result := keepBetter s.result (rootOf g src pieces) }) s
  s.modifyBranch b ({ · with status := .halted })

end Session

end CodeAtlas
