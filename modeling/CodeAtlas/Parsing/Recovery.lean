import CodeAtlas.Parsing.Reduction

/-!
# Recovery from errors

When no reading can take the next token, three ways out are tried: a token is read although it is
missing, the parser returns to an earlier state and leaves out what it has read since, or it
leaves out the next token.

- `Session.insertMissing`: readings with a missing token.
- `Session.returnTo`: back to an earlier state.
- `Session.recover`: the cheapest way to go on in the error state.
- `Session.handleError`: all ways out for a paused reading.
-/

namespace CodeAtlas

namespace Session

/-! ## Returning to an earlier state -/

/-- The pieces that a return leaves out become one piece, to which an earlier stretch directly
below is added. -/
def returnAt (g : Grammar) (src : Source) (b : Nat) (goal : StateId) (s : Session)
    (reached : Graph.Reached) : Session :=
  match reached.readings with
  | [] => s
  | pieces :: _ =>
    if (s.graph.vertex reached.vertex).state = goal then
      let (v, pieces) := match s.graph.popError reached.vertex with
        | some (v, stretch) => (v, stretch.children ++ pieces)
        | none => (reached.vertex, pieces)
      let (inner, extras) := Piece.splitExtras pieces
      let c := s.size
      let s := s.fork b v
      let s :=
        if inner.isEmpty then s
        else s.push c (some ((Piece.node g src 0 errorSymbol 0 inner).withExtra true)) goal
      s.pushAll c extras goal
    else s

/-- Returns to a state below the top `depth` pieces; tells whether that was possible. -/
def returnTo (g : Grammar) (src : Source) (s : Session) (b : Nat) (depth : Nat)
    (goal : StateId) : Session × Bool :=
  let size := s.size
  let s := (s.graph.pop (s.branch b).top depth).foldl (returnAt g src b goal) s
  (s, size < s.size)

/-- Tries the states below, nearest first, until one can take the token. A state at the same
position, or one in which another reading is already, is of no use, and none is if there is a
better reading. -/
def returnSomewhere (g : Grammar) (src : Source) (b : Nat) (token : Piece) (size : Nat)
    (progress cost : Nat) : List Graph.Below → Session → Session × Bool
  | [], s => (s, false)
  | e :: rest, s =>
    let position := (s.top b).position
    let taken := (List.range size).any fun c =>
      (s.top c).state == e.state && (s.top c).position == position
    if e.state = errorState || e.position = position || taken then
      returnSomewhere g src b token size progress cost rest s
    else
      let newCost := cost + e.depth * Cost.node + Cost.skipping src e.position position
      match s.betterExists b newCost with
      | (s, true) => (s, false)
      | (s, false) =>
        if g.admits e.state token.symbol then
          let depth := if 0 < progress then e.depth + 1 else e.depth
          match s.returnTo g src b depth e.state with
          | (s, true) => (s, true)
          | (s, false) => returnSomewhere g src b token size progress cost rest s
        else returnSomewhere g src b token size progress cost rest s

/-! ## Leaving out a token -/

/-- Leaves out a token: it joins the stretch on top of the stack. -/
def skip (g : Grammar) (src : Source) (s : Session) (b : Nat) (token : Piece)
    (progress : Nat) : Session :=
  let token := match (g.actions startState token.symbol).getLast? with
    | some .shiftExtra => token.withExtra true
    | _ => token
  let stretch := Piece.node g src 0 skippedSymbol 0 [token]
  if 0 < progress then
    match s.graph.pop (s.branch b).top 1 with
    | ⟨v, pieces :: _⟩ :: _ =>
      let c := s.size
      ((s.fork b v).replace c b).push b
        (some (.node g src 0 skippedSymbol 0 (pieces ++ [stretch]))) errorState
    | _ => s.push b (some stretch) errorState
  else s.push b (some stretch) errorState

/-- Goes on in the error state: returns to an earlier state if that is possible, and leaves out the
token as well unless there is a better reading. At the end of the text the reading is complete. -/
def recover (g : Grammar) (src : Source) (s : Session) (b : Nat) (token : Piece) : Session :=
  let size := s.size
  let position := (s.top b).position
  let s := s.settle b
  let progress := s.progress b
  let cost := s.cost b
  let (s, returned) :=
    if token.symbol = errorSymbol then (s, false)
    else returnSomewhere g src b token size progress cost (s.branch b).below s
  if token.symbol = endSymbol then
    (s.push b (some (.node g src position errorSymbol 0 [])) startState).accept g src b token
  else if returned && maxBranches < s.size then s.modifyBranch b ({ · with status := .halted })
  else
    let newCost := cost + Cost.node + Cost.skipping src token.info.blank token.info.stop
    match s.betterExists b newCost with
    | (s, true) => s.modifyBranch b ({ · with status := .halted })
    | (s, false) => s.skip g src b token progress

/-! ## Missing tokens -/

/-- Tries to read one of some tokens although it is missing, such that the next token can be taken
behind it. -/
def insertMissing (g : Grammar) (src : Source) (b : Nat) (token : SymbolId) :
    List SymbolId → Session → Session × Bool
  | [], s => (s, false)
  | m :: rest, s =>
    let x := s.top b
    let after := g.next x.state m
    if after = errorState || after = x.state || !g.reduces after token then
      insertMissing g src b token rest s
    else
      let c := s.size
      let s := (s.copy b).push c (some (.absent g m x.position)) after
      match s.reduceAll g src c token with
      | (s, true) => (s, true)
      | (s, false) => insertMissing g src b token rest s

/-- Puts some readings into the error state, and tries a missing token first as long as none of
them could go on that way. -/
def breakOff (g : Grammar) (src : Source) (token : SymbolId) :
    List Nat → Bool → Session → Session
  | [], _, s => s
  | b :: rest, done, s =>
    let (s, done) :=
      if done then (s, true)
      else insertMissing g src b token ((List.range g.tokenCount).drop 1) s
    breakOff g src token rest done (s.push b none errorState)

def mergeTimes (src : Source) (b c : Nat) : Nat → Session → Session
  | 0, s => s
  | n + 1, s => mergeTimes src b c n ((s.merge? src b c).getD s)

/-- All ways out for a reading that cannot take a token. -/
def handleError (g : Grammar) (src : Source) (s : Session) (b : Nat) (token : Piece) : Session :=
  let size := s.size
  let (s, _) := s.reduceAll g src b endSymbol
  let reduced := s.size
  let s := breakOff g src token.symbol (b :: (List.range reduced).drop size) false s
  let s := mergeTimes src b size (reduced - size) s
  let below := s.graph.summary (s.branch b).top
  (s.modifyBranch b ({ · with below := below })).recover g src b token

end Session

end CodeAtlas
