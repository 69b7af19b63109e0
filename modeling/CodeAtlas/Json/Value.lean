/-!
# JSON values and their text

- `JsonValue`: the values.
- `JsonStyle`: with or without line breaks.
- `JsonValue.render`: the text of a value.
- `quote`: a text as a string literal.
-/

namespace CodeAtlas

/-- The values of JSON, as far as records are made of them. -/
inductive JsonValue where
  | null
  | bool (b : Bool)
  | natural (n : Nat)
  /-- A number by its text. -/
  | number (literal : List Char)
  | string (text : List Char)
  | array (items : List JsonValue)
  | object (members : List (List Char × JsonValue))
  deriving Inhabited, Repr

/-- The layouts of a text: one line, or a line for each member with an indentation of two. -/
inductive JsonStyle where
  | pretty
  | compact
  deriving DecidableEq, Inhabited, Repr

/-! ## Strings -/

def hexDigit (n : Nat) : Char := Nat.digitChar n

/-- The text for one character of a string: quotes, backslashes and controls are written as
escapes, all else stands for itself. -/
def escapeChar (c : Char) : List Char :=
  match c with
  | '"' => ['\\', '"']
  | '\\' => ['\\', '\\']
  | '\x08' => ['\\', 'b']
  | '\t' => ['\\', 't']
  | '\n' => ['\\', 'n']
  | '\x0c' => ['\\', 'f']
  | '\r' => ['\\', 'r']
  | c =>
    if c.toNat < 0x20 then
      ['\\', 'u', '0', '0', hexDigit (c.toNat / 16), hexDigit (c.toNat % 16)]
    else [c]

def quote (text : List Char) : List Char := '"' :: text.flatMap escapeChar ++ ['"']

/-! ## Layout -/

namespace JsonStyle

/-- What separates members: nothing, or a new line at some depth. -/
def lineBreak : JsonStyle → Nat → List Char
  | compact, _ => []
  | pretty, depth => '\n' :: List.replicate (2 * depth) ' '

def colon : JsonStyle → List Char
  | compact => [':']
  | pretty => [':', ' ']

end JsonStyle

namespace JsonValue

def digits (n : Nat) : List Char := Nat.toDigits 10 n

mutual

def renderAt (style : JsonStyle) (depth : Nat) : JsonValue → List Char
  | null => ['n', 'u', 'l', 'l']
  | bool true => ['t', 'r', 'u', 'e']
  | bool false => ['f', 'a', 'l', 's', 'e']
  | natural n => digits n
  | number literal => literal
  | string text => quote text
  | array [] => ['[', ']']
  | array (item :: rest) =>
    '[' :: style.lineBreak (depth + 1) ++ renderAt style (depth + 1) item
      ++ renderItems style (depth + 1) rest ++ style.lineBreak depth ++ [']']
  | object [] => ['{', '}']
  | object ((key, value) :: rest) =>
    '{' :: style.lineBreak (depth + 1) ++ quote key ++ style.colon
      ++ renderAt style (depth + 1) value
      ++ renderMembers style (depth + 1) rest ++ style.lineBreak depth ++ ['}']

def renderItems (style : JsonStyle) (depth : Nat) : List JsonValue → List Char
  | [] => []
  | item :: rest =>
    ',' :: style.lineBreak depth ++ renderAt style depth item ++ renderItems style depth rest

def renderMembers (style : JsonStyle) (depth : Nat) : List (List Char × JsonValue) → List Char
  | [] => []
  | (key, value) :: rest =>
    ',' :: style.lineBreak depth ++ quote key ++ style.colon ++ renderAt style depth value
      ++ renderMembers style depth rest

end

def render (style : JsonStyle) (v : JsonValue) : List Char := renderAt style 0 v

end JsonValue

end CodeAtlas
