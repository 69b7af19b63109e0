/-!
# Characters as bytes

- `encodeUtf8`: the bytes of a text.
- `utf8Units`: the characters and the ill-formed stretches of a sequence of bytes.
- `decodeLossy`: each ill-formed stretch as one replacement character.
- `decodeStrict?`: the text of well-formed bytes only.
- `decodeSource`: the text of a source file, without a byte order mark.
-/

namespace CodeAtlas

abbrev Bytes := List UInt8

def encodeUtf8 (text : List Char) : Bytes := text.flatMap String.utf8EncodeChar

/-! ## Decoding -/

/-- A character that has begun: its value so far, how many bytes it lacks, and between which bounds
the next one must be. -/
structure Utf8Partial where
  value : Nat
  lacks : Nat
  least : Nat
  greatest : Nat
  deriving DecidableEq, Repr

inductive Utf8Lead where
  | whole (c : Char)
  | start (state : Utf8Partial)
  | invalid
  deriving Repr

/-- The first byte of a character. The bounds leave out values that would fit into fewer bytes,
halves of pairs, and values that are too large. -/
def utf8Lead (b : Nat) : Utf8Lead :=
  if b < 0x80 then .whole (Char.ofNat b)
  else if b < 0xc2 then .invalid
  else if b < 0xe0 then .start ⟨b - 0xc0, 1, 0x80, 0xbf⟩
  else if b = 0xe0 then .start ⟨0, 2, 0xa0, 0xbf⟩
  else if b = 0xed then .start ⟨0xd, 2, 0x80, 0x9f⟩
  else if b < 0xf0 then .start ⟨b - 0xe0, 2, 0x80, 0xbf⟩
  else if b = 0xf0 then .start ⟨0, 3, 0x90, 0xbf⟩
  else if b < 0xf4 then .start ⟨b - 0xf0, 3, 0x80, 0xbf⟩
  else if b = 0xf4 then .start ⟨4, 3, 0x80, 0x8f⟩
  else .invalid

/-- Begins a character: what is in progress behind its first byte, and what is complete. -/
def utf8Begin (b : Nat) : Option Utf8Partial × List (Option Char) :=
  match utf8Lead b with
  | .whole c => (none, [some c])
  | .start s => (some s, [])
  | .invalid => (none, [none])

/-- Takes one byte more: what is in progress then, and what is complete, the last first. A stretch
that is ill formed ends where no character can go on, and nothing stands in its place. -/
def utf8Step (state : Option Utf8Partial) (b : Nat) : Option Utf8Partial × List (Option Char) :=
  match state with
  | none => utf8Begin b
  | some s =>
    if s.least ≤ b && b ≤ s.greatest then
      let value := 64 * s.value + (b - 0x80)
      if s.lacks ≤ 1 then (none, [some (Char.ofNat value)])
      else (some ⟨value, s.lacks - 1, 0x80, 0xbf⟩, [])
    else
      let (state, units) := utf8Begin b
      (state, units ++ [none])

/-- Adds the characters of a sequence of bytes to those that are complete, the last first. -/
def utf8UnitsFrom (done : List (Option Char)) : Option Utf8Partial → Bytes → List (Option Char)
  | none, [] => done.reverse
  | some _, [] => (none :: done).reverse
  | state, b :: rest =>
    let (state, units) := utf8Step state b.toNat
    utf8UnitsFrom (units ++ done) state rest

/-- The characters of a sequence of bytes, with nothing in the place of a stretch that is ill
formed. -/
def utf8Units (bytes : Bytes) : List (Option Char) := utf8UnitsFrom [] none bytes

def replacementChar : Char := '\ufffd'

/-- The text of some bytes, with a replacement character for each ill-formed stretch. -/
def decodeLossy (bytes : Bytes) : List Char := (utf8Units bytes).map (·.getD replacementChar)

def decodeStrict? (bytes : Bytes) : Option (List Char) := (utf8Units bytes).mapM id

/-! ## Source files -/

def byteOrderMark : Char := '\ufeff'

/-- A text without the mark in front of it; only one mark is taken away. -/
def dropMark : List Char → List Char
  | [] => []
  | c :: rest => if c = byteOrderMark then rest else c :: rest

def decodeSource (bytes : Bytes) : List Char := dropMark (decodeLossy bytes)

end CodeAtlas
