import CodeAtlas.Decimal.Binary

/-!
# Decimals with a fixed number of places

- `fixedDigits`: a whole number of hundredths, or the like, with a decimal point.
- `fixedText`: a floating point number with a fixed number of places.
-/

namespace CodeAtlas

/-- The digits of a whole number of units, the last `places` of them behind a point. -/
def fixedDigits (places units : Nat) : List Char :=
  let digits := Nat.toDigits 10 units
  let padded := List.replicate (places + 1 - digits.length) '0' ++ digits
  let whole := padded.take (padded.length - places)
  if places = 0 then whole else whole ++ '.' :: padded.drop (padded.length - places)

/-- A floating point number with a fixed number of places. The exact value is rounded, halves go
to the even neighbour, and a number with a sign keeps it, even if all digits are zero. -/
def fixedText (places : Nat) (x : Float) : List Char :=
  match BinaryNumber.ofFloat? x with
  | some b =>
    let (numerator, denominator) := b.fraction
    let units := roundQuotient (numerator * Nat.pow 10 places) denominator
    (if b.negative then ['-'] else []) ++ fixedDigits places units
  | none => if x.isNaN then "NaN".toList else if x < 0 then "-inf".toList else "inf".toList

end CodeAtlas
