/-!
# Binary numbers with an exponent

- `BinaryNumber`: a whole number times a power of two, with a sign.
- `BinaryNumber.ofFloat?`: the value of a finite floating point number.
- `roundQuotient`: a quotient as the nearest whole number.
-/

namespace CodeAtlas

/-- The number `mantissa * 2 ^ exponent`, with a sign that zero has, too. -/
structure BinaryNumber where
  negative : Bool
  mantissa : Nat
  exponent : Int
  deriving DecidableEq, Repr

namespace BinaryNumber

/-- The mantissa of a floating point number has this many bits behind the leading one. -/
def mantissaBits : Nat := 52

/-- The exponent of the smallest steps. -/
def minExponent : Int := -1074

/-- The number that a pattern of 64 bits stands for, unless it is infinite or no number. -/
def ofBits? (bits : Nat) : Option BinaryNumber :=
  let negative := bits.testBit 63
  let fraction := bits % Nat.pow 2 mantissaBits
  let field := bits / Nat.pow 2 mantissaBits % 2048
  if field = 2047 then none
  else if field = 0 then some ⟨negative, fraction, minExponent⟩
  else some ⟨negative, fraction + Nat.pow 2 mantissaBits, minExponent + field - 1⟩

def ofFloat? (x : Float) : Option BinaryNumber := ofBits? x.toBits.toNat

def fraction (b : BinaryNumber) : Nat × Nat :=
  match b.exponent with
  | .ofNat e => (b.mantissa * Nat.pow 2 e, 1)
  | .negSucc e => (b.mantissa, Nat.pow 2 (e + 1))

end BinaryNumber

/-- The whole number nearest to a quotient; halves go to the even neighbour. -/
def roundQuotient (numerator denominator : Nat) : Nat :=
  let q := numerator / denominator
  let rest := numerator % denominator
  if 2 * rest < denominator || (2 * rest = denominator && q % 2 = 0) then q else q + 1

end CodeAtlas
