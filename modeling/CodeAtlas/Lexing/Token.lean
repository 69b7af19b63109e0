import CodeAtlas.Text.Source
import CodeAtlas.Lexing.Regex

/-!
# Tokens and the longest match

A token is recognised by a rule: a regular expression with a precedence. Among the rules that are
admitted at some point of a text the scanner follows all at once, skips the blanks in front, and
keeps the last token that was complete when no rule could go on.

- `TokenRule`: how one token is recognised.
- `Candidates`: the rules that may still match, and `Candidates.step`.
- `Scan`, `scan`: the token that starts at a position.
-/

namespace CodeAtlas

/-- Tokens and other grammar symbols are numbered; tokens come first and the end of the text is
number zero. -/
abbrev SymbolId := Nat

def endSymbol : SymbolId := 0

structure TokenRule where
  symbol : SymbolId
  pattern : Regex
  /-- A token that is complete is only given up for a longer one of at least its precedence. -/
  precedence : Int
  /-- Decides between tokens of equal length and precedence; fixed texts rank above patterns. -/
  rank : Nat
  /-- An immediate token admits no blanks in front of it. -/
  immediate : Bool
  deriving Repr

namespace TokenRule

/-- Is the first rule preferred to the second one if both match the same text? -/
def preferred (r s : TokenRule) : Bool :=
  if r.precedence = s.precedence then
    if r.rank = s.rank then r.symbol < s.symbol else s.rank < r.rank
  else s.precedence < r.precedence

end TokenRule

/-- A rule that has matched a part of the text and what may come next. -/
structure Candidate where
  rule : TokenRule
  rest : List Regex

namespace Candidate

def complete (k : Candidate) : Bool := k.rest.any Regex.nullable

def step? (c : Char) (k : Candidate) : Option Candidate :=
  match k.rest.flatMap (Regex.step c) with
  | [] => none
  | rest => some ⟨k.rule, rest⟩

end Candidate

structure Candidates where
  /-- Rules whose token has not begun; blanks may still be skipped. -/
  waiting : List TokenRule
  /-- Rules that have matched some characters, and immediate ones. -/
  running : List Candidate
  /-- May the text end here? -/
  endAllowed : Bool

namespace Candidates

def ofRules (rules : List TokenRule) (endAllowed : Bool) : Candidates where
  waiting := rules.filter (fun r => !r.immediate)
  running := (rules.filter (·.immediate)).map (fun r => ⟨r, [r.pattern]⟩)
  endAllowed := endAllowed

/-- The preferred one among the complete tokens. -/
def completed? (k : Candidates) : Option TokenRule :=
  (k.running.filter Candidate.complete).foldl step none
where
  step (best : Option TokenRule) (cand : Candidate) : Option TokenRule :=
    match best with
    | none => some cand.rule
    | some r => if r.preferred cand.rule then some r else some cand.rule

/-- One step of a scan: the candidates after the character `c`, and whether the character was a
blank in front of the token. There is none if no rule can go on, or if the complete token is
preferred to going on. -/
def step? (blank : CharSet) (c : Char) (k : Candidates) : Option (Candidates × Bool) :=
  let blankHere := !k.waiting.isEmpty && blank.contains c
  let moved := k.running.filterMap (Candidate.step? c)
    ++ k.waiting.filterMap fun r => Candidate.step? c ⟨r, [r.pattern]⟩
  if !blankHere && moved.isEmpty then none
  else
    let skipped := moved.isEmpty
    let waiting := if blankHere then k.waiting else []
    let next : Candidates := ⟨waiting, moved, k.endAllowed && skipped⟩
    match k.completed? with
    | none => some (next, skipped)
    | some r =>
      let start : List Int := if blankHere then [0] else []
      let precedence := (start ++ moved.map (·.rule.precedence)).max?.getD 0
      let goesOn := moved.any (·.rule.symbol == r.symbol) || waiting.any (·.symbol == r.symbol)
      if precedence < r.precedence then none
      else if precedence = r.precedence && (skipped || (!k.waiting.isEmpty && !goesOn)) then none
      else some (next, skipped)

end Candidates

/-- The outcome of a scan: the token with its end, if there is one, the position behind the
skipped blanks, and the position at which the scan stopped. -/
structure Scan where
  found : Option (SymbolId × Position)
  start : Position
  position : Position

/-- Scans from `position` with the given candidates; `fuel` bounds the characters looked at. -/
def scanFrom (blank : CharSet) (src : Source) :
    Nat → Candidates → Option (SymbolId × Position) → Position → Position → Scan
  | 0, _, found, start, position => ⟨found, start, position⟩
  | fuel + 1, k, found, start, position =>
    let found := match k.completed? with
      | some r => some (r.symbol, position)
      | none => found
    match src.peek position with
    | none => ⟨if k.endAllowed then some (endSymbol, position) else found, start, position⟩
    | some c =>
      match k.step? blank c with
      | none => ⟨found, start, position⟩
      | some (next, skipped) =>
        let start := if skipped then position + 1 else start
        scanFrom blank src fuel next found start (position + 1)

def scan (blank : CharSet) (src : Source) (k : Candidates) (position : Position) : Scan :=
  scanFrom blank src (src.size - position + 1) k none position position

end CodeAtlas
