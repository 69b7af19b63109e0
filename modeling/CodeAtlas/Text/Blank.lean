/-!
# Blanks

- `isBlank`: the characters that Unicode counts as white space.
- `trimEnd`: a text without the blanks at its end.
-/

namespace CodeAtlas

/-- The first and the last characters of the ranges of white space. -/
def blankRanges : List (Nat × Nat) :=
  [(0x09, 0x0d), (0x20, 0x20), (0x85, 0x85), (0xa0, 0xa0), (0x1680, 0x1680), (0x2000, 0x200a),
    (0x2028, 0x2029), (0x202f, 0x202f), (0x205f, 0x205f), (0x3000, 0x3000)]

def isBlank (c : Char) : Bool :=
  blankRanges.any fun (first, last) => first ≤ c.toNat && c.toNat ≤ last

def trimEnd (text : List Char) : List Char := (text.reverse.dropWhile isBlank).reverse

end CodeAtlas
