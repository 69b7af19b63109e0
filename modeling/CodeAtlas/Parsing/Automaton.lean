/-!
# Tables of a shift-reduce automaton

A parser is driven by a table that says, for a state and a token, what to do, and for a state and
a variable, where to go on. Many rows of such a table differ from another row in a few places
only, so a row is given by a base row and by what it overrides.

- `Packed`: a sequence of small numbers, written as large ones.
- `Action`: what the parser may do with a token.
- `Rows`: rows with a base row each, and `Rows.find`.
- `Automaton`: the table, with `Automaton.actions` and `Automaton.goto`.
-/

namespace CodeAtlas

/-- A sequence of `size` numbers of `width` bits each, `perPage` of them in one large number. -/
structure Packed where
  size : Nat
  width : Nat
  perPage : Nat
  pages : Array Nat

namespace Packed

/-- The number at an index, and zero outside the sequence. -/
def get (k : Packed) (i : Nat) : Nat :=
  if i < k.size then
    (k.pages.getD (i / k.perPage) 0 >>> (k.width * (i % k.perPage))) % Nat.pow 2 k.width
  else 0

def toArray (k : Packed) : Array Nat := Array.ofFn (fun i : Fin k.size => k.get i)

/-- Reading a packed sequence as an array changes no entry, and behind its end there are zeros
either way. -/
theorem getD_toArray (k : Packed) (i : Nat) : k.toArray.getD i 0 = k.get i := by
  by_cases h : i < k.size
  · simp [toArray, Array.getD, h]
  · simp [toArray, Array.getD, h, get]

end Packed

abbrev StateId := Nat

/-- The state in which the parser looks for a place to go on after an error. -/
def errorState : StateId := 0

def startState : StateId := 1

/-- A reduction: the last `count` pieces become one piece of kind `symbol`. -/
structure Reduction where
  symbol : Nat
  count : Nat
  /-- Decides between readings of an ambiguous text; larger is better. -/
  precedence : Int
  /-- The production, which fixes the names of the parts. -/
  production : Nat
  deriving DecidableEq, Inhabited, Repr

inductive Action where
  /-- Take the token and go to a state. -/
  | shift (next : StateId)
  /-- A step of a repetition, which is left to a reduction. -/
  | shiftRepeat (next : StateId)
  /-- Take a token that may stand anywhere. -/
  | shiftExtra
  | reduce (reduction : Reduction)
  | accept
  | recover
  deriving DecidableEq, Repr

/-- Rows of a sparse table. Row `r` has the overrides `first r`, …, `first (r + 1) - 1` and for the
rest agrees with row `base r`; row zero is empty. An override concerns the columns in its set. -/
structure Rows where
  base : Nat → Nat
  first : Nat → Nat
  columns : Nat → Nat
  value : Nat → Nat

namespace Rows

/-- The last of `count` overrides from `i` on that concerns the column. -/
def override? (t : Rows) (concerns : Nat → Bool) : Nat → Nat → Option Nat
  | 0, _ => none
  | count + 1, i => if concerns (t.columns i) then some (t.value i) else t.override? concerns count (i + 1)

/-- The value of a column in a row, zero if there is none; `depth` bounds the chain of base
rows. -/
def find (t : Rows) (concerns : Nat → Bool) : Nat → Nat → Nat
  | 0, _ => 0
  | depth + 1, r =>
    if r = 0 then 0
    else
      match t.override? concerns (t.first (r + 1) - t.first r) (t.first r) with
      | some v => v
      | none => t.find concerns depth (t.base r)

end Rows

structure Automaton where
  /-- The rows of a state. -/
  actionRow : StateId → Nat
  gotoRow : StateId → Nat
  /-- Which tokens are looked for in a state. -/
  lexMode : StateId → Nat
  contextMode : StateId → Nat
  actionRows : Rows
  gotoRows : Rows
  /-- Sets of tokens, as numbers with one bit for each member. -/
  tokenSet : Nat → Nat
  /-- Lists of actions. -/
  actionList : Nat → List Action

namespace Automaton

/-- Chains of base rows are shorter than this. -/
def maxDepth : Nat := 128

def actions (a : Automaton) (s : StateId) (token : Nat) : List Action :=
  a.actionList <|
    a.actionRows.find (fun set => (a.tokenSet set).testBit token) maxDepth (a.actionRow s)

/-- Where to go on in a state after a variable; zero if the variable cannot stand there. -/
def goto (a : Automaton) (s : StateId) (symbol : Nat) : StateId :=
  a.gotoRows.find (fun column => column == symbol) maxDepth (a.gotoRow s)

end Automaton

end CodeAtlas
