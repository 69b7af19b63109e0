/-!
# Regular expressions over characters

The patterns of tokens are regular expressions. They are matched one character at a time: a step
turns an expression into the expressions that may match what follows.

- `CharSet`: a union of character ranges, or the complement of one.
- `Regex`: regular expressions, and `Regex.nullable`: does one match the empty text?
- `Regex.step`: what is left to match after one character.
-/

namespace CodeAtlas

/-- A set of characters, given by ranges of code points or by what it leaves out. The character
with code point zero marks the end of a text and belongs to no set. -/
structure CharSet where
  negated : Bool
  ranges : List (Nat × Nat)
  deriving DecidableEq, Repr

namespace CharSet

def ofRanges (ranges : List (Nat × Nat)) : CharSet := ⟨false, ranges⟩

def outside (ranges : List (Nat × Nat)) : CharSet := ⟨true, ranges⟩

def single (c : Char) : CharSet := ofRanges [(c.toNat, c.toNat)]

def inRanges (n : Nat) : List (Nat × Nat) → Bool
  | [] => false
  | (lo, hi) :: rest => (Nat.ble lo n && Nat.ble n hi) || inRanges n rest

def contains (s : CharSet) (c : Char) : Bool :=
  match c.toNat with
  | 0 => false
  | n => inRanges n s.ranges != s.negated

end CharSet

inductive Regex where
  /-- The empty text. -/
  | epsilon
  /-- One character of a set. -/
  | chars (set : CharSet)
  /-- One expression after another. -/
  | seq (first second : Regex)
  /-- Either of two expressions. -/
  | alt (left right : Regex)
  /-- Any number of repetitions, none included. -/
  | star (body : Regex)
  deriving DecidableEq, Repr

namespace Regex

def char (c : Char) : Regex := .chars (.single c)

def ofList : List Char → Regex
  | [] => .epsilon
  | [c] => char c
  | c :: rest => .seq (char c) (ofList rest)

def plus (r : Regex) : Regex := .seq r (.star r)

def opt (r : Regex) : Regex := .alt r .epsilon

def cat : List Regex → Regex
  | [] => .epsilon
  | [r] => r
  | r :: rest => .seq r (cat rest)

/-- One of the expressions of a non-empty list; an empty list gives the empty text. -/
def any : List Regex → Regex
  | [] => .epsilon
  | [r] => r
  | r :: rest => .alt r (any rest)

def times : Nat → Regex → Regex
  | 0, _ => .epsilon
  | 1, r => r
  | n + 1, r => .seq r (times n r)

def upTo : Nat → Regex → Regex
  | 0, _ => .epsilon
  | n + 1, r => opt (.seq r (upTo n r))

def oneUpTo (n : Nat) (r : Regex) : Regex := .seq r (upTo (n - 1) r)

def nullable : Regex → Bool
  | .epsilon => true
  | .chars _ => false
  | .seq r s => nullable r && nullable s
  | .alt r s => nullable r || nullable s
  | .star _ => true

/-- What is left of a sequence when its first part has become `r`. -/
def followedBy (s : Regex) : Regex → Regex
  | .epsilon => s
  | r => .seq r s

/-- The expressions that remain to be matched after the character `c`. -/
def step (c : Char) : Regex → List Regex
  | .epsilon => []
  | .chars set => if set.contains c then [.epsilon] else []
  | .seq r s =>
    let inside := (step c r).map (followedBy s)
    if nullable r then inside ++ step c s else inside
  | .alt r s => step c r ++ step c s
  | .star r => (step c r).map (followedBy (.star r))

end Regex

end CodeAtlas
