import CodeAtlas.Lexing.Token
import CodeAtlas.Lexing.Context
import CodeAtlas.Parsing.Automaton
import CodeAtlas.Syntax.Kind

/-!
# Grammars

All that the parser has to know about a language.

- `SymbolInfo`: how a symbol of the grammar shows up in syntax trees.
- `Production`: names and roles that a production gives to its parts.
- `Grammar`: symbols, tokens, productions and the table.
-/

namespace CodeAtlas

inductive SymbolInfo where
  /-- As a node of a kind. -/
  | visible (kind : Kind)
  /-- Not at all; its parts take its place. -/
  | hidden (name : String)
  deriving DecidableEq, Repr, Inhabited

/-- Where the child with a role is found among the parts of a production. -/
inductive FieldSlot where
  /-- It is the part at an index. -/
  | own (index : Nat)
  /-- It is a child with the same role of the hidden part at an index. -/
  | inherited (index : Nat)
  deriving DecidableEq, Repr

namespace FieldSlot

def index : FieldSlot → Nat
  | .own i => i
  | .inherited i => i

end FieldSlot

/-- The names and roles that a production gives to its parts. -/
structure Production where
  /-- New kinds for the parts, in order; parts behind the list keep their own. -/
  aliases : List (Option Kind)
  fields : List (Field × List FieldSlot)
  deriving Repr, Inhabited

namespace Production

def slots (p : Production) (f : Field) : List FieldSlot := (p.fields.lookup f).getD []

end Production

/-- The symbol of text that could not be placed. -/
def errorSymbol : SymbolId := 65535

/-- The symbol of a part of such a text, while the parser collects it. -/
def skippedSymbol : SymbolId := 65534

structure Grammar where
  dialect : Dialect
  symbols : Array SymbolInfo
  /-- Symbols below this number are tokens. -/
  tokenCount : Nat
  /-- The token of words; keywords are words first. -/
  word : SymbolId
  /-- The characters that may stand between tokens. -/
  blank : CharSet
  /-- Tokens that are looked for in a mode. -/
  modes : Array Candidates
  keywords : Candidates
  contextModes : Array (List ContextToken)
  contextSymbol : ContextToken → SymbolId
  productions : Array Production
  automaton : Automaton

namespace Grammar

def info (g : Grammar) (s : SymbolId) : SymbolInfo :=
  if s = errorSymbol then .visible .error
  else if s = skippedSymbol then .hidden "skipped"
  else g.symbols.getD s (.hidden "unknown")

def isVisible (g : Grammar) (s : SymbolId) : Bool :=
  match g.info s with
  | .visible _ => true
  | .hidden _ => false

def production (g : Grammar) (i : Nat) : Production := g.productions.getD i ⟨[], []⟩

def actions (g : Grammar) (s : StateId) (token : SymbolId) : List Action :=
  if token < g.tokenCount then g.automaton.actions s token else []

def admits (g : Grammar) (s : StateId) (token : SymbolId) : Bool := !(g.actions s token).isEmpty

def reduces (g : Grammar) (s : StateId) (token : SymbolId) : Bool :=
  match g.actions s token with
  | .reduce _ :: _ => true
  | _ => false

/-- The state after a symbol; the error state if the symbol cannot be taken. -/
def next (g : Grammar) (s : StateId) (symbol : SymbolId) : StateId :=
  if symbol < g.tokenCount then
    match (g.actions s symbol).getLast? with
    | some (.shift t) => t
    | some (.shiftRepeat t) => t
    | some .shiftExtra => s
    | _ => errorState
  else if symbol < g.symbols.size then g.automaton.goto s symbol
  else errorState

end Grammar

end CodeAtlas
