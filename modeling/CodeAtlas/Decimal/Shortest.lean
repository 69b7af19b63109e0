import CodeAtlas.Decimal.Binary

/-!
# The shortest decimal of a floating point number

Of all decimals that lie nearer to a floating point number than to any other one, the one with the
fewest digits is chosen, and of several the nearest.

- `Rounding`: the decimals that are read as a given number.
- `shortestDigits`: the digits and the power of ten.
- `DecimalLayout`, `shortestText`: how the digits are written.
-/

namespace CodeAtlas

/-- A positive number and the bounds of what is rounded to it, in a common unit, which is a
fraction. -/
structure Rounding where
  low : Nat
  value : Nat
  high : Nat
  unit : Nat × Nat
  /-- Are the bounds themselves rounded to the number? -/
  closed : Bool

namespace Rounding

/-- The numbers that are rounded to a binary number: half a step in either direction, and half of
that below a power of two, where the steps become smaller. -/
def ofBinary (b : BinaryNumber) : Rounding :=
  let m := b.mantissa
  let below :=
    if m = Nat.pow 2 BinaryNumber.mantissaBits && BinaryNumber.minExponent < b.exponent then 1 else 2
  { low := 4 * m - below
    value := 4 * m
    high := 4 * m + 2
    unit := BinaryNumber.fraction ⟨false, 1, b.exponent - 2⟩
    closed := m % 2 == 0 }

/-- Is `q * 10 ^ p` rounded to the number? -/
def admits (r : Rounding) (q : Nat) (p : Int) : Bool :=
  let (num, den) := r.unit
  let (left, right) := match p with
    | .ofNat e => (q * Nat.pow 10 e * den, num)
    | .negSucc e => (q * den, num * Nat.pow 10 (e + 1))
  if r.closed then r.low * right ≤ left && left ≤ r.high * right
  else r.low * right < left && left < r.high * right

/-- The number as a multiple of `10 ^ p`, rounded down, and whether it lies in the lower half of
the step, with halves going to the even neighbour. -/
def scaled (r : Rounding) (p : Int) : Nat × Bool :=
  let (num, den) := r.unit
  let (left, right) := match p with
    | .ofNat e => (r.value * num, den * Nat.pow 10 e)
    | .negSucc e => (r.value * num * Nat.pow 10 (e + 1), den)
  (left / right, roundQuotient left right = left / right)

/-- The power of ten of the leading digit; `fuel` bounds the zeros behind the point. -/
def magnitude (r : Rounding) (fuel : Nat) : Int :=
  let (whole, _) := r.scaled 0
  if 0 < whole then (Nat.toDigits 10 whole).length - 1
  else ((List.range fuel).find? fun (k : Nat) =>
      0 < (r.scaled (-(k : Int) - 1)).1).elim 0 fun (k : Nat) => -(k : Int) - 1

end Rounding

/-- The digits of a multiple of a power of ten that is rounded to the number, if there is one. -/
def digitsOnGrid? (r : Rounding) (p : Int) : Option Nat :=
  let (q, lower) := r.scaled p
  match r.admits q p, r.admits (q + 1) p with
  | true, true => if lower then some q else some (q + 1)
  | true, false => some q
  | false, true => some (q + 1)
  | false, false => none

/-- The fewest digits, as a whole number, and the power of ten that they are multiplied by. -/
def shortestDigits (r : Rounding) : Nat × Int :=
  let top := r.magnitude 400
  let grids := (List.range 17).map fun (n : Nat) => top - (n : Int)
  (grids.findSome? fun p => (digitsOnGrid? r p).map fun q => (q, p)).getD (0, 0)

/-- How digits are written: with a point alone if the power of ten of the leading digit lies
between two bounds, and else with an exponent, whose sign is always written. -/
structure DecimalLayout where
  minFixed : Int
  maxFixed : Int
  deriving Repr

def trimZeros (digits : List Char) : List Char × Nat :=
  let kept := (digits.reverse.dropWhile (· == '0')).reverse
  (kept, digits.length - kept.length)

/-- Writes digits that are multiplied by a power of ten. At least one digit stands behind a
point. -/
def DecimalLayout.write (layout : DecimalLayout) (digits : List Char) (power : Int) : List Char :=
  let (digits, zeros) := trimZeros digits
  let lead := power + zeros + digits.length - 1
  if layout.minFixed ≤ lead && lead ≤ layout.maxFixed then
    match lead with
    | .ofNat whole =>
      let padded := digits ++ List.replicate (whole + 1 - digits.length) '0'
      let rest := padded.drop (whole + 1)
      padded.take (whole + 1) ++ '.' :: if rest.isEmpty then ['0'] else rest
    | .negSucc zeros => '0' :: '.' :: List.replicate zeros '0' ++ digits
  else
    let rest := digits.drop 1
    let sign := if lead < 0 then '-' else '+'
    digits.take 1 ++ (if rest.isEmpty then [] else '.' :: rest)
      ++ 'e' :: sign :: Nat.toDigits 10 lead.natAbs

def shortestText? (layout : DecimalLayout) (x : Float) : Option (List Char) :=
  (BinaryNumber.ofFloat? x).map fun b =>
    let sign := if b.negative then ['-'] else []
    if b.mantissa = 0 then sign ++ ['0', '.', '0']
    else
      let (q, p) := shortestDigits (.ofBinary b)
      sign ++ layout.write (Nat.toDigits 10 q) p

end CodeAtlas
