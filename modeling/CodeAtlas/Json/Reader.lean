import CodeAtlas.Json.Number

/-!
# Reading JSON as values of a type

A text is read from left to right, and the first thing that is wrong with it counts.

- `readString`, `readNatural`, `readBool`, `readFloat`: simple values.
- `readOption`, `readList`, `readEnum`: values made of others.
- `JsonField`, `readRecord`: records, which may also be arrays of their fields.
- `readWhole`: a whole text as one value.
-/

namespace CodeAtlas

/-! ## Blanks and words -/

def isJsonBlank (c : Char) : Bool := c == ' ' || c == '\n' || c == '\t' || c == '\r'

def skipBlanks (cs : List Char) : List Char := cs.dropWhile isJsonBlank

def passWord : List Char → List Char → Except JsonFault (List Char)
  | [], cs => .ok cs
  | _ :: _, [] => .error .truncated
  | w :: word, c :: cs => if w = c then passWord word cs else .error .malformed

/-! ## Strings -/

/-- Where the reader of a string is: in plain text, behind a backslash, or among the digits of an
escape. After the first half of a pair of escapes, `high` holds it. -/
inductive StringState where
  | plain
  | escape (high : Option Nat)
  | hex (high : Option Nat) (digits : List Char)
  | half (high : Nat)
  deriving Repr

def hexValue? (c : Char) : Option Nat :=
  if '0' ≤ c && c ≤ '9' then some (c.toNat - '0'.toNat)
  else if 'a' ≤ c && c ≤ 'f' then some (c.toNat - 'a'.toNat + 10)
  else if 'A' ≤ c && c ≤ 'F' then some (c.toNat - 'A'.toNat + 10)
  else none

def hexNumber? (digits : List Char) : Option Nat :=
  digits.foldl (fun n c => n.bind fun n => (hexValue? c).map (16 * n + ·)) (some 0)

def simpleEscape? (c : Char) : Option Char :=
  match c with
  | '"' => some '"'
  | '\\' => some '\\'
  | '/' => some '/'
  | 'b' => some '\x08'
  | 'f' => some '\x0c'
  | 'n' => some '\n'
  | 'r' => some '\r'
  | 't' => some '\t'
  | _ => none

/-- Ends an escape with four digits: gives a character, or the first half of a pair. If the string
is only passed (`strict` is off), halves need no partner. -/
def finishHex (strict : Bool) (high : Option Nat) (digits : List Char) :
    Except JsonFault (StringState × List Char) :=
  match hexNumber? digits with
  | none => .error .malformed
  | some n =>
    if !strict then .ok (.plain, [])
    else
      match high with
      | none =>
        if 0xdc00 ≤ n && n ≤ 0xdfff then .error .malformed
        else if 0xd800 ≤ n && n ≤ 0xdbff then .ok (.half n, [])
        else .ok (.plain, [Char.ofNat n])
      | some h =>
        if 0xdc00 ≤ n && n ≤ 0xdfff then
          .ok (.plain, [Char.ofNat (0x10000 + 0x400 * (h - 0xd800) + (n - 0xdc00))])
        else .error .malformed

def byteCount (cs : List Char) : Nat := cs.foldr (fun c n => c.utf8Size + n) 0

/-- One character of a string that does not end it: the next state and what is added. -/
def stringStep (strict : Bool) (state : StringState) (c : Char) :
    Except JsonFault (StringState × List Char) :=
  match state with
  | .plain =>
    if c = '\\' then .ok (.escape none, [])
    else if c.toNat < 0x20 then .error .malformed
    else .ok (.plain, [c])
  | .escape none =>
    if c = 'u' then .ok (.hex none [], [])
    else
      match simpleEscape? c with
      | some d => .ok (.plain, [d])
      | none => .error .malformed
  | .escape (some h) => if c = 'u' then .ok (.hex (some h) [], []) else .error .malformed
  | .hex high digits =>
    let digits := digits ++ [c]
    if byteCount digits < 4 then .ok (.hex high digits, [])
    else if digits.length = 4 then finishHex strict high digits
    else .error .malformed
  | .half h => if c = '\\' then .ok (.escape (some h), []) else .error .malformed

def readStringFrom (strict : Bool) : StringState → List Char →
    Except JsonFault (List Char × List Char)
  | _, [] => .error .truncated
  | state, c :: cs =>
    match state, c with
    | .plain, '"' => .ok ([], cs)
    | _, _ =>
      match stringStep strict state c with
      | .error e => .error e
      | .ok (state, added) =>
        match readStringFrom strict state cs with
        | .error e => .error e
        | .ok (text, rest) => .ok (added ++ text, rest)

/-! ## Values of the wrong shape -/

/-- What is wrong with a value that begins with the first character of a text, if it is well
formed but not what is wanted. Simple values are read to their end first. -/
def wrongValue (cs : List Char) : JsonFault :=
  let after {α : Type} (r : Except JsonFault α) : JsonFault := match r with
    | .ok _ => .mismatch
    | .error e => e
  match cs with
  | [] => .malformed
  | 'n' :: rest => after (passWord "ull".toList rest)
  | 't' :: rest => after (passWord "rue".toList rest)
  | 'f' :: rest => after (passWord "alse".toList rest)
  | '"' :: rest => after (readStringFrom true .plain rest)
  | '[' :: _ => .mismatch
  | '{' :: _ => .mismatch
  | c :: _ => if c = '-' || isDecimalDigit c then after (readNumber cs) else .malformed

/-- Reads a value by its first character, after blanks. -/
def readValue {α : Type} (read : Char → List Char → Option (Except JsonFault (α × List Char))) :
    JsonReader α := fun cs =>
  match skipBlanks cs with
  | [] => .error .truncated
  | c :: rest =>
    match read c rest with
    | some r => r
    | none => .error (wrongValue (c :: rest))

/-! ## Simple values -/

def readString : JsonReader (List Char) := readValue fun c rest =>
  if c = '"' then some (readStringFrom true .plain rest) else none

def readNumberAs {α : Type} (pick : JsonNumber → Option α) : JsonReader α :=
  readValue fun c rest =>
    if c = '-' || isDecimalDigit c then
      some <| do
        let (number, rest) ← readNumber (c :: rest)
        match pick number with
        | some x => .ok (x, rest)
        | none => .error .mismatch
    else none

def readNatural : JsonReader Nat := readNumberAs fun
  | .natural n => some n
  | _ => none

/-- A floating point number; whole numbers are admitted. -/
def readFloat : JsonReader Float := readNumberAs fun
  | .natural n => some (.ofNat n)
  | .negative n => some (-.ofNat n)
  | .decimal x => some x

def readBool : JsonReader Bool := readValue fun c rest =>
  if c = 't' then some ((passWord "rue".toList rest).map (true, ·))
  else if c = 'f' then some ((passWord "alse".toList rest).map (false, ·))
  else none

def readNull : JsonReader Unit := readValue fun c rest =>
  if c = 'n' then some ((passWord "ull".toList rest).map ((), ·)) else none

def readOption {α : Type} (read : JsonReader α) : JsonReader (Option α) := fun cs =>
  match skipBlanks cs with
  | 'n' :: rest => (passWord "ull".toList rest).map (none, ·)
  | rest => (read rest).map fun (x, rest) => (some x, rest)

def passColon (cs : List Char) : Except JsonFault (List Char) :=
  match skipBlanks cs with
  | [] => .error .truncated
  | ':' :: rest => .ok rest
  | _ => .error .malformed

/-- One of several names, as a string or as the only key of an object with the value null. -/
def readEnum {α : Type} (ofName? : List Char → Option α) : JsonReader α := fun cs =>
  let name (cs : List Char) : Except JsonFault (α × List Char) := do
    let (text, rest) ← readString cs
    match ofName? text with
    | some x => .ok (x, rest)
    | none => .error .mismatch
  match skipBlanks cs with
  | [] => .error .truncated
  | '"' :: rest => name ('"' :: rest)
  | '{' :: rest => do
    let (x, rest) ← name rest
    let (_, rest) ← readNull (← passColon rest)
    match skipBlanks rest with
    | [] => .error .truncated
    | '}' :: rest => .ok (x, rest)
    | _ => .error .malformed
  | _ => .error .malformed

/-! ## Passing values that are not wanted -/

mutual

/-- Passes a value; `fuel` bounds the number of values in it. -/
def skipValue : Nat → List Char → Except JsonFault (List Char)
  | 0, _ => .error .truncated
  | fuel + 1, cs =>
    match skipBlanks cs with
    | [] => .error .truncated
    | 'n' :: rest => passWord "ull".toList rest
    | 't' :: rest => passWord "rue".toList rest
    | 'f' :: rest => passWord "alse".toList rest
    | '"' :: rest => (readStringFrom false .plain rest).map (·.2)
    | '[' :: rest =>
      match skipBlanks rest with
      | [] => .error .truncated
      | ']' :: rest => .ok rest
      | _ => skipItems fuel rest
    | '{' :: rest =>
      match skipBlanks rest with
      | [] => .error .truncated
      | '}' :: rest => .ok rest
      | _ => skipMembers fuel rest
    | c :: rest =>
      if c = '-' || isDecimalDigit c then skipNumber (c :: rest) else .error .malformed

def skipItems : Nat → List Char → Except JsonFault (List Char)
  | 0, _ => .error .truncated
  | fuel + 1, cs => do
    match skipBlanks (← skipValue fuel cs) with
    | [] => .error .truncated
    | ',' :: rest => skipItems fuel rest
    | ']' :: rest => .ok rest
    | _ => .error .malformed

def skipMembers : Nat → List Char → Except JsonFault (List Char)
  | 0, _ => .error .truncated
  | fuel + 1, cs =>
    match skipBlanks cs with
    | [] => .error .truncated
    | '"' :: rest => do
      let (_, rest) ← readStringFrom false .plain rest
      match skipBlanks (← skipValue fuel (← passColon rest)) with
      | [] => .error .truncated
      | ',' :: rest => skipMembers fuel rest
      | '}' :: rest => .ok rest
      | _ => .error .malformed
    | _ => .error .malformed

end

def passValue (cs : List Char) : Except JsonFault (List Char) :=
  skipValue (2 * cs.length + 2) cs

/-! ## Lists -/

/-- Is there a further item in an array? Gives the text at the item. -/
def nextItem? (first : Bool) (cs : List Char) : Except JsonFault (Option (List Char)) :=
  match skipBlanks cs with
  | [] => .error .truncated
  | ']' :: _ => .ok none
  | c :: rest =>
    if first then .ok (some (c :: rest))
    else if c = ',' then
      match skipBlanks rest with
      | [] => .error .truncated
      | ']' :: _ => .error .malformed
      | rest => .ok (some rest)
    else .error .malformed

def endArray (cs : List Char) : Except JsonFault (List Char) :=
  match skipBlanks cs with
  | [] => .error .truncated
  | ']' :: rest => .ok rest
  | _ => .error .malformed

def readItems {α : Type} (read : JsonReader α) : Nat → Bool → JsonReader (List α)
  | 0, _, _ => .error .truncated
  | fuel + 1, first, cs => do
    match ← nextItem? first cs with
    | none => .ok ([], cs)
    | some cs =>
      let (x, rest) ← read cs
      let (xs, rest) ← readItems read fuel false rest
      .ok (x :: xs, rest)

def readList {α : Type} (read : JsonReader α) : JsonReader (List α) := readValue fun c rest =>
  if c = '[' then
    some <| do
      let (xs, rest) ← readItems read (rest.length + 1) true rest
      .ok (xs, ← endArray rest)
  else none

/-! ## Records -/

/-- A field of a record: how its value changes a record, and whether it may be left out of an
object and of the end of an array. -/
structure JsonField (α : Type) where
  name : List Char
  read : JsonReader (α → α)
  optional : Bool := false
  omissible : Bool := false

/-- The text behind the opening quote of a further key of an object, if there is one. -/
def nextKey? (first : Bool) (cs : List Char) : Except JsonFault (Option (List Char)) :=
  match skipBlanks cs with
  | [] => .error .truncated
  | '}' :: _ => .ok none
  | '"' :: rest => if first then .ok (some rest) else .error .malformed
  | ',' :: rest =>
    if first then .error .malformed
    else
      match skipBlanks rest with
      | [] => .error .truncated
      | '"' :: rest => .ok (some rest)
      | _ => .error .malformed
  | _ => .error .malformed

/-- The members of an object, as changes of a record; unknown keys are passed over, and no key may
come twice. `fuel` bounds the number of members. -/
def readMembers {α : Type} (fields : List (JsonField α)) :
    Nat → Bool → List (List Char) → α → JsonReader α
  | 0, _, _, _, _ => .error .truncated
  | fuel + 1, first, seen, record, cs => do
    match ← nextKey? first cs with
    | none =>
      if fields.all fun f => f.optional || seen.contains f.name then .ok (record, cs)
      else .error .mismatch
    | some cs =>
      let (key, rest) ← readStringFrom true .plain cs
      match fields.find? (·.name == key) with
      | none => readMembers fields fuel false seen record (← passValue (← passColon rest))
      | some field =>
        if seen.contains key then .error .mismatch
        else
          let (change, rest) ← field.read (← passColon rest)
          readMembers fields fuel false (key :: seen) (change record) rest

def readFields {α : Type} : List (JsonField α) → Bool → α → JsonReader α
  | [], _, record, cs => .ok (record, cs)
  | field :: fields, first, record, cs => do
    match ← nextItem? first cs with
    | none => if field.omissible then readFields fields first record cs else .error .mismatch
    | some cs =>
      let (change, rest) ← field.read cs
      readFields fields false (change record) rest

/-- A record, as an object or as an array of its fields. Fields that are left out keep the value
that they have in `blank`. -/
def readRecord {α : Type} (fields : List (JsonField α)) (blank : α) : JsonReader α :=
  readValue fun c rest =>
    if c = '[' then
      some <| do
        let (record, rest) ← readFields fields true blank rest
        .ok (record, ← endArray rest)
    else if c = '{' then
      some <| do
        let (record, rest) ← readMembers fields (rest.length + 1) true [] blank rest
        match skipBlanks rest with
        | '}' :: rest => .ok (record, rest)
        | [] => .error .truncated
        | _ => .error .malformed
    else none

/-! ## Whole texts -/

/-- A whole text as one value. -/
def readWhole {α : Type} (read : JsonReader α) (text : List Char) : Except JsonFault α := do
  let (x, rest) ← read text
  match skipBlanks rest with
  | [] => .ok x
  | _ => .error .malformed

end CodeAtlas
