/-!
# Numbers in JSON

A number is read as a whole number of 64 bits if it is one, and else as a floating point number.

- `JsonFault`: why a text cannot be read.
- `JsonNumber`: the numbers.
- `readNumber`: a number at the start of a text.
- `skipNumber`: the same, without looking at its value.
-/

namespace CodeAtlas

/-- Why a text cannot be read: it is well formed but of the wrong shape, it ends early, or it is
not well formed. -/
inductive JsonFault where
  | mismatch
  | truncated
  | malformed
  deriving DecidableEq, Repr

/-- Reads a value at the start of a text, and gives what follows it. -/
abbrev JsonReader (α : Type) := List Char → Except JsonFault (α × List Char)

def maxWord : Nat := Nat.pow 2 64 - 1

inductive JsonNumber where
  | natural (n : Nat)
  /-- The number `-n`. -/
  | negative (n : Nat)
  | decimal (x : Float)

def isDecimalDigit (c : Char) : Bool := '0' ≤ c && c ≤ '9'

def takeDigits : List Char → List Char × List Char
  | [] => ([], [])
  | c :: rest =>
    if isDecimalDigit c then
      let (digits, rest) := takeDigits rest
      (c :: digits, rest)
    else ([], c :: rest)

/-- Appends digits to a whole number as long as it does not become too large, and gives the number
of digits that are left over. -/
def appendDigits (n : Nat) : List Char → Nat × Nat
  | [] => (n, 0)
  | c :: rest =>
    let next := 10 * n + (c.toNat - '0'.toNat)
    if maxWord < next then (n, rest.length + 1) else appendDigits next rest

/-- Divides by powers of ten; `fuel` bounds their number. -/
def divideByTens (x : Float) : Nat → Nat → Float
  | 0, _ => 0
  | fuel + 1, e =>
    if e ≤ 308 then x / Float.ofScientific 1 false e
    else divideByTens (x / Float.ofScientific 1 false 308) fuel (e - 308)

/-- The floating point number near `n * 10 ^ e`; there is none if it is too large. -/
def scaledFloat? (n : Nat) (e : Int) : Option Float :=
  let x := Float.ofNat n
  if n = 0 then some 0
  else
    match e with
    | .ofNat e =>
      let y := x * Float.ofScientific 1 false e
      if 308 < e || y.isInf then none else some y
    | .negSucc e => some (divideByTens x 8 (e + 1))

def readExponent (cs : List Char) : Except JsonFault (Int × List Char) :=
  let (negative, cs) := match cs with
    | '+' :: rest => (false, rest)
    | '-' :: rest => (true, rest)
    | _ => (false, cs)
  match takeDigits cs with
  | ([], []) => .error .truncated
  | ([], _) => .error .malformed
  | (digits, rest) =>
    let e := digits.foldl (fun n c => 10 * n + (c.toNat - '0'.toNat)) 0
    .ok (if negative then -(e : Int) else e, rest)

/-- The rest of a number with a fraction or an exponent, as a floating point number. -/
def finishDecimal (negative : Bool) (n : Nat) (e : Int) (cs : List Char) :
    Except JsonFault (JsonNumber × List Char) := do
  let (exponent, rest) ← match cs with
    | 'e' :: rest => readExponent rest
    | 'E' :: rest => readExponent rest
    | _ => pure (0, cs)
  match scaledFloat? n (e + exponent) with
  | some x => .ok (.decimal (if negative then -x else x), rest)
  | none => .error .malformed

/-- The rest of a number behind the digits in front of the point. -/
def finishNumber (negative : Bool) (digits : List Char) (cs : List Char) :
    Except JsonFault (JsonNumber × List Char) :=
  let (n, left) := appendDigits 0 digits
  match cs with
  | '.' :: rest =>
    match takeDigits rest with
    | ([], []) => .error .truncated
    | ([], _) => .error .malformed
    | (fraction, rest) =>
      let (n, ignored) := appendDigits n fraction
      finishDecimal negative n ((left : Int) - (fraction.length - ignored : Nat)) rest
  | 'e' :: _ => finishDecimal negative n left cs
  | 'E' :: _ => finishDecimal negative n left cs
  | _ =>
    if left != 0 then finishDecimal negative n left cs
    else if !negative then .ok (.natural n, cs)
    else if n = 0 || Nat.pow 2 63 < n then .ok (.decimal (-Float.ofNat n), cs)
    else .ok (.negative n, cs)

def readNumber : JsonReader JsonNumber := fun cs =>
  let (negative, cs) := match cs with
    | '-' :: rest => (true, rest)
    | _ => (false, cs)
  match takeDigits cs with
  | ([], []) => .error .truncated
  | ([], _) => .error .malformed
  | ('0' :: _ :: _, _) => .error .malformed
  | (digits, rest) => finishNumber negative digits rest

def skipExponent (cs : List Char) : Except JsonFault (List Char) :=
  let cs := match cs with
    | '+' :: rest => rest
    | '-' :: rest => rest
    | _ => cs
  match takeDigits cs with
  | ([], _) => .error .malformed
  | (_, rest) => .ok rest

/-- Passes a number without looking at its value. -/
def skipNumber (cs : List Char) : Except JsonFault (List Char) :=
  let cs := match cs with
    | '-' :: rest => rest
    | _ => cs
  match takeDigits cs with
  | ([], _) => .error .malformed
  | ('0' :: _ :: _, _) => .error .malformed
  | (_, '.' :: rest) =>
    match takeDigits rest with
    | ([], _) => .error .malformed
    | (_, 'e' :: rest) => skipExponent rest
    | (_, 'E' :: rest) => skipExponent rest
    | (_, rest) => .ok rest
  | (_, 'e' :: rest) => skipExponent rest
  | (_, 'E' :: rest) => skipExponent rest
  | (_, rest) => .ok rest

end CodeAtlas
