import CodeAtlas.Lexing.Regex

/-!
# The patterns of tokens

Names, numbers, strings, comments and regular expressions, as they are written in scripts.

- `Lexeme.blank`: what may stand between tokens.
- `Lexeme.identifier`, `Lexeme.number`, …: the patterns.
-/

namespace CodeAtlas

namespace Lexeme

open Regex

/-! ## Characters -/

def spaceRanges : List (Nat × Nat) := [(0x09, 0x0d), (0x20, 0x20)]

def separatorRanges : List (Nat × Nat) :=
  [(0x20, 0x20), (0xa0, 0xa0), (0x1680, 0x1680), (0x2000, 0x200a), (0x202f, 0x202f),
    (0x205f, 0x205f), (0x3000, 0x3000)]

/-- The byte order mark, two joiners and the two line terminators beyond ASCII. -/
def formatRanges : List (Nat × Nat) :=
  [(0xfeff, 0xfeff), (0x2060, 0x2060), (0x200b, 0x200b), (0x2028, 0x2029)]

def blank : CharSet := .ofRanges (spaceRanges ++ separatorRanges ++ formatRanges)

/-- The characters of ASCII that stand in no name: controls but delete, and punctuation other than
the dollar sign and the underscore. -/
def punctuationRanges : List (Nat × Nat) :=
  [(0x00, 0x23), (0x25, 0x2f), (0x3a, 0x40), (0x5b, 0x5e), (0x60, 0x60), (0x7b, 0x7e)]

def digits : Regex := .chars (.ofRanges [(0x30, 0x39)])

def hexDigits : Regex := .chars (.ofRanges [(0x30, 0x39), (0x41, 0x46), (0x61, 0x66)])

def except (cs : List Char) : Regex := .chars (.outside (cs.map fun c => (c.toNat, c.toNat)))

def oneOf (cs : List Char) : Regex := .chars (.ofRanges (cs.map fun c => (c.toNat, c.toNat)))

def text (s : String) : Regex := .ofList s.toList

/-- A character, written by its number with four digits or with any number of digits in braces. -/
def codePoint : Regex :=
  any [cat [text "\\u", times 4 hexDigits], cat [text "\\u\x7b", plus hexDigits, text "\x7d"]]

/-! ## Names -/

def nameStart : Regex :=
  .alt (.chars (.outside
    (punctuationRanges ++ [(0x30, 0x39)] ++ spaceRanges ++ separatorRanges ++ formatRanges)))
    codePoint

def namePart : Regex :=
  .alt (.chars (.outside (punctuationRanges ++ spaceRanges ++ separatorRanges ++ formatRanges)))
    codePoint

def identifier : Regex := .seq nameStart (.star namePart)

def privateIdentifier : Regex := cat [text "#", nameStart, .star namePart]

/-- A name with a hyphen, as it stands in elements. -/
def jsxIdentifier : Regex :=
  let letters := [(0x41, 0x5a), (0x61, 0x7a), (0x5f, 0x5f), (0x24, 0x24)]
  cat [.chars (.ofRanges letters), .star (.chars (.ofRanges ((0x30, 0x39) :: letters))), text "-",
    .star (.chars (.ofRanges ((0x30, 0x39) :: (0x2d, 0x2d) :: letters)))]

/-! ## Numbers -/

/-- Digits, in which single underscores may stand. -/
def grouped (digit : Regex) : Regex := .seq digit (.star (.seq (opt (text "_")) digit))

def hexNumber : Regex := .seq (any [text "0x", text "0X"]) (grouped hexDigits)

def octalNumber : Regex :=
  .seq (any [text "0o", text "0O"]) (grouped (.chars (.ofRanges [(0x30, 0x37)])))

def binaryNumber : Regex :=
  .seq (any [text "0b", text "0B"]) (grouped (.chars (.ofRanges [(0x30, 0x31)])))

def exponent : Regex := cat [oneOf ['e', 'E'], opt (oneOf ['-', '+']), grouped digits]

def wholePart : Regex :=
  .alt (text "0") (cat [opt (text "0"), .chars (.ofRanges [(0x31, 0x39)]),
    opt (.seq (opt (text "_")) (grouped digits))])

def decimalNumber : Regex :=
  any [cat [wholePart, text ".", opt (grouped digits), opt exponent],
    cat [text ".", grouped digits, opt exponent],
    cat [wholePart, exponent],
    grouped digits]

def number : Regex :=
  any [hexNumber, decimalNumber, binaryNumber, octalNumber,
    .seq (any [hexNumber, binaryNumber, octalNumber, grouped digits]) (text "n")]

/-! ## Strings and text -/

def doubleQuoted : Regex := plus (except ['"', '\\', '\r', '\n'])

def singleQuoted : Regex := plus (except ['\'', '\\', '\r', '\n'])

def escapeSequence : Regex :=
  let octal : Regex := .chars (.ofRanges [(0x30, 0x37)])
  .seq (text "\\") <| any [
    .chars (.outside [(0x78, 0x78), (0x75, 0x75), (0x30, 0x37)]),
    oneUpTo 3 octal,
    cat [text "x", times 2 hexDigits],
    cat [text "u", times 4 hexDigits],
    cat [text "u\x7b", plus hexDigits, text "\x7d"],
    cat [oneOf ['\r', '?'], oneOf ['\n', '\u2028', '\u2029']]]

def characterReference : Regex :=
  cat [text "&",
    .alt
      (.seq (text "#") (.alt (.seq (oneOf ['x', 'X']) (oneUpTo 6 hexDigits)) (oneUpTo 5 digits)))
      (oneUpTo 30 (.chars (.ofRanges [(0x41, 0x5a), (0x61, 0x7a)]))),
    text ";"]

/-- The text of an attribute, in which an ampersand begins no character reference. -/
def attributeText (quote : Char) : Regex :=
  plus (.alt (except [quote, '&'])
    (.seq (text "&") (.chars (.outside [(0x23, 0x23), (0x41, 0x5a), (0x61, 0x7a)]))))

def doubleQuotedAttribute : Regex := attributeText '"'

def singleQuotedAttribute : Regex := attributeText '\''

/-! ## Comments and others -/

def inLine : Regex := except ['\n']

def hashBang : Regex := .seq (text "#!") (.star inLine)

def comment : Regex :=
  .alt (.seq (text "//") (.star (except ['\r', '\n', '\u2028', '\u2029'])))
    (cat [text "/*", .star (except ['*']), plus (text "*"),
      .star (cat [except ['/', '*'], .star (except ['*']), plus (text "*")]), text "/"])

/-- The inside of a regular expression; a slash may stand in brackets. -/
def regexPattern : Regex :=
  let escaped : Regex := .seq (text "\\") inLine
  plus (any [cat [text "[", .star (.alt escaped (except [']', '\n', '\\'])), text "]"], escaped,
    except ['/', '\\', '[', '\n']])

def regexFlags : Regex := plus (.chars (.ofRanges [(0x61, 0x7a)]))

/-- The words `static get` at the end of a line, which name two members. -/
def staticGet : Regex :=
  let space : Regex := .chars (.ofRanges spaceRanges)
  cat [text "static", plus space, text "get", .star space, text "\n"]

end Lexeme

end CodeAtlas
