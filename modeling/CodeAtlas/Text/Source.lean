/-!
# Source texts with positions

A source text is held as an array of characters, with two running totals in front of every
character: the UTF-8 bytes and the line feeds that come before it.

- `Source`: the text and its running totals.
- `Source.peek`, `Source.look`: the character at a position.
- `Source.skip`: the end of a run of characters.
- `Source.sliceList`: the characters between two positions.
- `Source.bytesBetween`, `Source.rowsBetween`: distances between two positions.

A position is the number of characters before it.
-/

namespace CodeAtlas

/-- Positions count characters from the start of the text. -/
abbrev Position := Nat

/-- A text, with the bytes and the line feeds before each position. -/
structure Source where
  chars : Array Char
  bytesBefore : Array Nat
  rowsBefore : Array Nat

namespace Source

/-- Appends to an array the running totals of `weight` over a list, starting from `total`. -/
def totals (weight : Char → Nat) : Array Nat → Nat → List Char → Array Nat
  | done, total, [] => done.push total
  | done, total, c :: rest => totals weight (done.push total) (total + weight c) rest

def ofList (text : List Char) : Source where
  chars := text.toArray
  bytesBefore := totals Char.utf8Size #[] 0 text
  rowsBefore := totals (fun c => if c = '\n' then 1 else 0) #[] 0 text

def ofString (text : String) : Source := ofList text.toList

/-- The number of characters of the text, which is also its last position. -/
def size (src : Source) : Nat := src.chars.size

/-- The character at a position; none at the end of the text. -/
def peek (src : Source) (p : Position) : Option Char := src.chars[p]?

/-- The number of line feeds before a position. -/
def row (src : Source) (p : Position) : Nat := src.rowsBefore.getD p 0

def byte (src : Source) (p : Position) : Nat := src.bytesBefore.getD p 0

def bytesBetween (src : Source) (p q : Position) : Nat := src.byte q - src.byte p

def rowsBetween (src : Source) (p q : Position) : Nat := src.row q - src.row p

def sliceList (src : Source) (p q : Position) : List Char :=
  (src.chars.extract p q).toList

/-- The character at a position, and the character zero at the end of the text. -/
def look (src : Source) (p : Position) : Char := (src.peek p).getD '\x00'

/-- The first position from `p` on whose character fails the test; `fuel` bounds the steps. -/
def skipFuel (src : Source) (test : Char → Bool) : Nat → Position → Position
  | 0, p => p
  | fuel + 1, p =>
    match src.peek p with
    | some c => if test c then src.skipFuel test fuel (p + 1) else p
    | none => p

/-- The first position from `p` on whose character fails the test. -/
def skip (src : Source) (test : Char → Bool) (p : Position) : Position :=
  src.skipFuel test (src.size - p) p

def startsWith (src : Source) (p : Position) : List Char → Bool
  | [] => true
  | c :: rest => src.peek p == some c && src.startsWith (p + 1) rest

end Source

end CodeAtlas
