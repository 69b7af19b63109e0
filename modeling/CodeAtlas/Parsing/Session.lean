import CodeAtlas.Parsing.Stack

/-!
# Competing readings

The parser follows several readings of a text at a time. Each has a stack in a common graph.

- `Branch`: a reading, and whether it is followed.
- `Session`: all readings, and the best complete one so far.
- `Session.push`, `Session.merge?`, `Session.replace`: operations on readings.
- `Standing`, `Standing.preference`: which of two readings is more promising.
-/

namespace CodeAtlas

/-! ## Readings -/

inductive Status where
  | active
  /-- The reading met a token that it cannot take. -/
  | paused (lookahead : Piece)
  | halted
  deriving Inhabited

namespace Status

def isActive : Status → Bool
  | active => true
  | _ => false

def isPaused : Status → Bool
  | paused _ => true
  | _ => false

def isHalted : Status → Bool
  | halted => true
  | _ => false

end Status

structure Branch where
  top : VertexId
  /-- The progress at the last error. -/
  mark : Nat
  status : Status
  /-- States to which the reading might return after an error. -/
  below : List Graph.Below
  deriving Inhabited

structure Session where
  graph : Graph
  branches : Array Branch
  /-- The best complete reading. -/
  result : Option Piece
  /-- How many complete readings there were. -/
  accepted : Nat
  /-- The token that was found last, with the position at which it was looked for. -/
  recent : Option (Position × Piece)

namespace Session

def start : Session := ⟨.start, #[⟨0, 0, .active, []⟩], none, 0, none⟩

def size (s : Session) : Nat := s.branches.size

def branch (s : Session) (b : Nat) : Branch := s.branches.getD b default

def top (s : Session) (b : Nat) : Vertex := s.graph.vertex (s.branch b).top

def modifyBranch (s : Session) (b : Nat) (f : Branch → Branch) : Session :=
  { s with branches := s.branches.modify b f }

/-- Gives up a reading; later ones move up. -/
def remove (s : Session) (b : Nat) : Session :=
  { s with branches := s.branches.eraseIdxIfInBounds b }

/-- Adds a reading that continues another one from some vertex on. -/
def fork (s : Session) (b : Nat) (v : VertexId) : Session :=
  { s with branches := s.branches.push ⟨v, (s.branch b).mark, .active, []⟩ }

def copy (s : Session) (b : Nat) : Session :=
  { s with branches := s.branches.push { s.branch b with below := [] } }

def swap (s : Session) (a b : Nat) : Session :=
  { s with branches := s.branches.swapIfInBounds a b }

/-- Pushes a piece on the stack of a reading. Without a piece an error is marked. -/
def push (s : Session) (b : Nat) (piece : Option Piece) (state : StateId) : Session :=
  let (graph, v) := s.graph.extend (s.branch b).top piece state
  let count := (graph.vertex v).count
  let s := { s with graph := graph }
  s.modifyBranch b fun x =>
    { x with top := v, mark := if piece.isNone then count else x.mark }

/-- Pushes several pieces, all with the same state on top. -/
def pushAll (s : Session) (b : Nat) (pieces : List Piece) (state : StateId) : Session :=
  pieces.foldl (fun s p => s.push b (some p) state) s

def replace (s : Session) (a b : Nat) : Session :=
  if a = b then s
  else
    let x := s.branch a
    let below := if x.below.isEmpty then (s.branch b).below else x.below
    (s.modifyBranch b fun _ => { x with below := below }).remove a

/-- Do two readings stand in the same situation, so that what follows cannot tell them apart? -/
def alike (s : Session) (a b : Nat) : Bool :=
  (s.branch a).status.isActive && (s.branch b).status.isActive
    && s.graph.alike (s.branch a).top (s.branch b).top

def merge? (src : Source) (s : Session) (a b : Nat) : Option Session :=
  if s.alike a b then
    let v := (s.branch a).top
    let graph := s.graph.join src v (s.branch b).top
    let x := graph.vertex v
    let s := { s with graph := graph }
    let s := if x.state = errorState then s.modifyBranch a ({ · with mark := x.count }) else s
    some (s.remove b)
  else none

/-- Joins a reading to the first of some others that is alike. -/
def mergeFirst? (src : Source) (s : Session) : List Nat → Nat → Option Session
  | [], _ => none
  | a :: rest, b =>
    match s.merge? src a b with
    | some s => some s
    | none => s.mergeFirst? src rest b

/-- Has the reading taken any text since its last error? Without an error it has; otherwise pieces
without text are passed as long as they lie above the mark. -/
def progressed (s : Session) (b : Nat) : Bool :=
  let mark := (s.branch b).mark
  let rec search : Nat → Vertex → Bool
    | 0, _ => false
    | fuel + 1, x =>
      match x.links with
      | ⟨target, some p⟩ :: _ =>
        if p.info.blank < p.info.stop then true
        else if mark < x.count && p.cost = 0 then search fuel (s.graph.vertex target)
        else false
      | _ => false
  (s.top b).cost = 0 || search s.graph.vertices.size (s.top b)

/-! ## Comparing readings -/

def cost (s : Session) (b : Nat) : Nat :=
  let x := s.top b
  let broken := x.state = errorState && (x.links.head?.map (·.piece.isNone)).getD false
  x.cost + if (s.branch b).status.isPaused || broken then Cost.recovery else 0

/-- Lowers the mark of a reading that has fallen back behind it. -/
def settle (s : Session) (b : Nat) : Session :=
  let count := (s.top b).count
  s.modifyBranch b fun x => { x with mark := min x.mark count }

def progress (s : Session) (b : Nat) : Nat := (s.top b).count - (s.branch b).mark

end Session

structure Standing where
  cost : Nat
  progress : Nat
  precedence : Int
  /-- Is the reading in the midst of an error? -/
  faulty : Bool
  deriving Repr

/-- The outcome of a comparison: one of two readings is dropped, or only preferred. -/
inductive Preference where
  | takeLeft
  | preferLeft
  | neutral
  | preferRight
  | takeRight
  deriving DecidableEq, Repr

namespace Standing

/-- A difference in costs weighs the more, the more progress the better reading has made. -/
def maxDifference : Nat := 18 * Cost.node

def preference (a b : Standing) : Preference :=
  if !a.faulty && b.faulty then if a.cost < b.cost then .takeLeft else .preferLeft
  else if a.faulty && !b.faulty then if b.cost < a.cost then .takeRight else .preferRight
  else if a.cost < b.cost then
    if maxDifference < (b.cost - a.cost) * (1 + a.progress) then .takeLeft else .preferLeft
  else if b.cost < a.cost then
    if maxDifference < (a.cost - b.cost) * (1 + b.progress) then .takeRight else .preferRight
  else if b.precedence < a.precedence then .preferLeft
  else if a.precedence < b.precedence then .preferRight
  else .neutral

end Standing

namespace Session

def standing (s : Session) (b : Nat) : Standing :=
  let paused := (s.branch b).status.isPaused
  { cost := s.cost b + if paused then Cost.node else 0
    progress := s.progress b
    precedence := (s.top b).precedence
    faulty := paused || (s.top b).state = errorState }

/-- Among the readings from `i` on, is there one that is as far as reading `b` and better than it
would be at the given standing? -/
def betterAmong (b : Nat) (would : Standing) : Nat → Nat → Session → Session × Bool
  | 0, _, s => (s, false)
  | count + 1, i, s =>
    if i = b || !(s.branch i).status.isActive || (s.top i).position < (s.top b).position then
      betterAmong b would count (i + 1) s
    else
      let s := s.settle i
      match would.preference (s.standing i) with
      | .takeRight => (s, true)
      | .preferRight => if s.alike i b then (s, true) else betterAmong b would count (i + 1) s
      | _ => betterAmong b would count (i + 1) s

/-- Is there a better reading than reading `b` would be at some cost? -/
def betterExists (s : Session) (b : Nat) (cost : Nat) : Session × Bool :=
  match s.result with
  | some p => if p.cost ≤ cost then (s, true) else search s
  | none => search s
where
  search (s : Session) : Session × Bool :=
    let s := s.settle b
    betterAmong b ⟨cost, s.progress b, (s.top b).precedence, false⟩ s.size 0 s

end Session

end CodeAtlas
