import CodeAtlas.Parsing.Lookahead
import CodeAtlas.Parsing.Recovery

/-!
# Running the parser

- `Session.advance`: one token for one reading.
- `Session.condense`: keeps the promising readings, and ends pauses if no reading is left.
- `parsePieces`: the best reading of a text.
-/

namespace CodeAtlas

def stepBudget (src : Source) : Nat := 4096 * (src.size + 64)

namespace Session

/-! ## One token -/

inductive Progress where
  /-- The reading has taken the token, or has ended. -/
  | done
  /-- There were reductions, the last one with results at an index if it had any. -/
  | reduced (some? : Bool) (last : Option Nat)

/-- Performs actions in their order until one takes the token. -/
def perform (g : Grammar) (src : Source) (b : Nat) (token : Piece) :
    List Action → Bool → Option Nat → Session → Session × Progress
  | [], any, last, s => (s, .reduced any last)
  | a :: rest, any, last, s =>
    match a with
    | .shift next => (s.push b (some (token.withExtra false)) next, .done)
    | .shiftExtra => (s.push b (some (token.withExtra true)) (s.top b).state, .done)
    | .shiftRepeat _ => perform g src b token rest any last s
    | .reduce r =>
      let (s, found) := s.reduce g src b r
      perform g src b token rest true (found <|> last) s
    | .accept => (s.accept g src b token, .done)
    | .recover => (s.recover g src b token, .done)

/-- Handles a token: reductions go on until the token is taken. A keyword that fits nowhere is
taken for a word; if that does not help, the reading pauses. -/
def handle (g : Grammar) (src : Source) (b : Nat) :
    Nat → Piece → List Action → Session → Session
  | 0, _, _, s => s.modifyBranch b ({ · with status := .halted })
  | fuel + 1, token, actions, s =>
    match perform g src b token actions false none s with
    | (s, .done) => s
    | (s, .reduced _ (some c)) =>
      let s := s.replace c b
      handle g src b fuel token (g.actions (s.top b).state token.symbol) s
    | (s, .reduced true none) => s.modifyBranch b ({ · with status := .halted })
    | (s, .reduced false none) =>
      let state := (s.top b).state
      let asWord := g.actions state g.word
      if token.info.keyword && token.symbol != g.word && !asWord.isEmpty then
        let word := Piece.mk
          { token.info with symbol := g.word, visible := g.isVisible g.word } token.children
        handle g src b fuel word asWord s
      else if state = errorState then s.recover g src b token
      else
        s.modifyBranch b fun x =>
          { x with status := .paused token, mark := (s.top b).count }

/-- May a token that was found in another state be used? -/
def reusable (g : Grammar) (state : StateId) (token : Piece) : Bool :=
  let other := token.info.state
  let a := g.automaton
  g.admits state token.symbol && a.lexMode state == a.lexMode other
    && a.contextMode state == a.contextMode other
    && (token.symbol != g.word || (!token.info.keyword && other == state))

def advance (g : Grammar) (src : Source) (s : Session) (b : Nat) : Session :=
  let x := s.top b
  let kept := match s.recent with
    | some (p, token) => if p = x.position && reusable g x.state token then some token else none
    | none => none
  match kept with
  | some token => handle g src b (stepBudget src) token (g.actions x.state token.symbol) s
  | none =>
    let token := Piece.next g src x.state (s.progressed b) x.position
    handle g src b (stepBudget src) token (g.actions x.state token.symbol)
      { s with recent := some (x.position, token) }

/-- Moves each reading on until it is beyond all others. -/
def advanceAll (g : Grammar) (src : Source) :
    Nat → Nat → Position → Session → Session × Position
  | 0, _, last, s => (s, last)
  | fuel + 1, b, last, s =>
    if s.size ≤ b then (s, last)
    else if (s.branch b).status.isActive then
      let s := s.advance g src b
      let p := (s.top b).position
      if last < p || (0 < b && p = last) then advanceAll g src fuel (b + 1) p s
      else advanceAll g src fuel b last s
    else advanceAll g src fuel (b + 1) last s

/-! ## Keeping the promising readings -/

/-- Compares reading `i`, whose standing is given, with the readings before it from `j` on. Gives
the index of the last reading that was dealt with, if there is one left. -/
def compete (src : Source) (standing : Standing) :
    Nat → Nat → Nat → Session → Session × Nat
  | 0, i, _, s => (s, i + 1)
  | fuel + 1, i, j, s =>
    if i ≤ j then (s, i + 1)
    else
      let s := s.settle j
      match (s.standing j).preference standing with
      | .takeLeft => (s.remove i, i)
      | .preferLeft | .neutral =>
        match s.merge? src j i with
        | some s => (s, i)
        | none => compete src standing fuel i (j + 1) s
      | .preferRight =>
        match s.merge? src j i with
        | some s => (s, i)
        | none => compete src standing fuel i (j + 1) (s.swap i j)
      | .takeRight => compete src standing fuel (i - 1) j (s.remove j)

/-- The smaller one of two costs, where none is larger than any. -/
def cheaper (a : Option Nat) (b : Nat) : Option Nat :=
  match a with
  | none => some b
  | some a => some (min a b)

/-- Lets all readings compete, and gives the least cost of one without an open error. -/
def competeAll (src : Source) : Nat → Nat → Option Nat → Session → Session × Option Nat
  | 0, _, least, s => (s, least)
  | fuel + 1, i, least, s =>
    if s.size ≤ i then (s, least)
    else if (s.branch i).status.isHalted then competeAll src fuel i least (s.remove i)
    else
      let s := s.settle i
      let standing := s.standing i
      let least := if standing.faulty then least else cheaper least standing.cost
      let (s, next) := compete src standing i i 0 s
      competeAll src fuel next least s

/-- Goes through the readings from `i` on, `count` of them. A pause ends only if no reading before
it is left, the others are given up. -/
def resume (g : Grammar) (src : Source) :
    Nat → Nat → Bool → Option Nat → Session → Session × Option Nat
  | 0, _, _, least, s => (s, least)
  | count + 1, i, found, least, s =>
    match (s.branch i).status with
    | .paused token =>
      if !found && s.accepted < maxBranches then
        let cost := s.cost i
        let s := s.modifyBranch i ({ · with status := .active })
        resume g src count (i + 1) true (some cost) (s.handleError g src i token)
      else resume g src count i found least (s.remove i)
    | _ => resume g src count (i + 1) true least s

/-- Keeps the promising readings, and gives the least cost that one of them has so far. -/
def condense (g : Grammar) (src : Source) (s : Session) : Session × Option Nat :=
  let (s, least) := competeAll src s.size 0 none s
  let s := { s with branches := s.branches.take maxBranches }
  resume g src s.size 0 false least s

/-! ## The whole text -/

/-- Is the complete reading better than what the others can come to? -/
def decided (s : Session) (least : Option Nat) : Bool :=
  match s.result with
  | none => false
  | some p =>
    match least with
    | none => true
    | some c => p.cost < c

/-- Goes on until a complete reading is the best one, or until no reading is left. -/
def run (g : Grammar) (src : Source) : Nat → Position → Session → Session
  | 0, _, s => s
  | fuel + 1, last, s =>
    let (s, last) := advanceAll g src (stepBudget src) 0 last s
    let size := s.size
    let (s, least) := s.condense g src
    if s.decided least || size = 0 then s else run g src fuel last s

end Session

def parsePieces (g : Grammar) (src : Source) : Option Piece :=
  (Session.start.run g src (stepBudget src) 0).result

end CodeAtlas
