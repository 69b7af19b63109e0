import CodeAtlas.Parsing.Piece

/-!
# Looking for the next token

Which tokens are looked for depends on the state of the parser. If none of them stands in the
text, all tokens are looked for, and if there is none either, characters are left out until one
is found.

- `tokenAt`: the token at a position, among those of a state.
- `keywordAt`: is a word a keyword in a state?
- `Piece.next`: the next token of the text, or a stretch that is left out.
-/

namespace CodeAtlas

structure FoundToken where
  symbol : SymbolId
  start : Position
  stop : Position
  deriving Repr

/-- Where a token may begin: a byte order mark at the start of the text is passed over. -/
def tokenStart (src : Source) (p : Position) : Position :=
  if p = 0 && src.look 0 = '\ufeff' then 1 else p

/-- A token of the rules that look ahead, among those that the state `wanted` admits. A token
without characters counts only if it changes the state `s` of a parser that has made progress. -/
def contextTokenAt (g : Grammar) (src : Source) (s wanted : StateId) (progressed : Bool)
    (p : Position) : Option FoundToken :=
  match g.contextModes.getD (g.automaton.contextMode wanted) [] with
  | [] => none
  | admitted =>
    match contextScan g.dialect src admitted.contains (tokenStart src p) with
    | none => none
    | some m =>
      let symbol := g.contextSymbol m.token
      if m.stop ≤ p && (wanted == errorState || !progressed || g.next s symbol == s) then none
      else some ⟨symbol, m.start, m.stop⟩

/-- The token at a position among those that the state `wanted` admits, or how far the search for
one went. -/
def tokenAt (g : Grammar) (src : Source) (s wanted : StateId) (progressed : Bool)
    (p : Position) : Except Scan FoundToken :=
  match contextTokenAt g src s wanted progressed p with
  | some t => .ok t
  | none =>
    let k := g.modes.getD (g.automaton.lexMode wanted) ⟨[], [], false⟩
    let found := scan g.blank src k (tokenStart src p)
    match found.found with
    | some (symbol, stop) => .ok ⟨symbol, found.start, stop⟩
    | none => .error found

/-- The symbol of a word in a state, and whether a keyword stands at its start. -/
def keywordAt (g : Grammar) (src : Source) (s : StateId) (t : FoundToken) : SymbolId × Bool :=
  match (scan g.blank src g.keywords (tokenStart src t.start)).found with
  | none => (t.symbol, false)
  | some (symbol, stop) =>
    (if stop = t.stop && g.admits s symbol then symbol else t.symbol, true)

/-- Where a stretch that is left out begins and ends: characters are left out from `p` on until a
token is found there. -/
def unknownStretch (g : Grammar) (src : Source) (s : StateId) (progressed : Bool) :
    Nat → Position → Option (Position × Position) → Option (Position × Position)
  | 0, _, stretch => stretch
  | fuel + 1, p, stretch =>
    match tokenAt g src s errorState progressed p with
    | .ok _ => stretch
    | .error found =>
      let (start, stop) := stretch.getD (found.start, found.start)
      if found.position = stop then
        if src.size ≤ stop then some (start, stop)
        else unknownStretch g src s progressed fuel (stop + 1) (some (start, stop + 1))
      else unknownStretch g src s progressed fuel found.position (some (start, found.position))

def Piece.next (g : Grammar) (src : Source) (s : StateId) (progressed : Bool) (p : Position) :
    Piece :=
  let found :=
    match tokenAt g src s s progressed p with
    | .ok t => Except.ok t
    | .error _ => tokenAt g src s errorState progressed p
  match found with
  | .ok t =>
    let (symbol, keyword) := if t.symbol = g.word then keywordAt g src s t else (t.symbol, false)
    .leaf g symbol p t.start t.stop s keyword
  | .error _ =>
    let (start, stop) :=
      (unknownStretch g src s progressed (src.size - p + 2) p none).getD (p, p)
    .leaf g errorSymbol p start stop s false

end CodeAtlas
