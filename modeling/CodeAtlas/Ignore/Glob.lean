/-!
# Globs

A glob is a text with wildcards that stands for a set of paths.

- `GlobToken`: the parts of a glob.
- `GlobRules`: the two points in which dialects differ.
- `GlobFault`: what can be wrong with the text of a glob.
- `Glob.read`: the glob that a text describes.
-/

namespace CodeAtlas

inductive GlobToken where
  | char (c : Char)
  /-- Any byte. -/
  | anyOne
  /-- Any bytes. -/
  | anyRun
  /-- Any directories in front of a path, or none. -/
  | dirsBefore
  /-- Something below a directory. -/
  | dirsAfter
  /-- A slash, or any directories between two slashes. -/
  | dirsBetween
  /-- A character between some bounds, or one that is between none of them. -/
  | oneOf (negated : Bool) (ranges : List (Char × Char))
  /-- One of several globs. -/
  | choice (branches : List (List GlobToken))
  deriving Inhabited, Repr

/-- The points in which dialects of globs differ. -/
structure GlobRules where
  /-- May wildcards stand for slashes? -/
  crossing : Bool
  /-- Does a bracket that is not closed stand for itself? -/
  openBrackets : Bool
  deriving DecidableEq, Repr

inductive GlobFault where
  | unclosedClass
  | invalidRange (first last : Char)
  | unopenedChoice
  | unclosedChoice
  | danglingEscape
  deriving DecidableEq, Repr

namespace GlobFault

def message : GlobFault → String
  | unclosedClass => "unclosed character class; missing ']'"
  | invalidRange first last => s!"invalid range; '{first}' > '{last}'"
  | unopenedChoice =>
    "unopened alternate group; missing '\x7b' (maybe escape '\x7d' with '[\x7d]'?)"
  | unclosedChoice =>
    "unclosed alternate group; missing '\x7d' (maybe escape '\x7b' with '[\x7b]'?)"
  | danglingEscape => "dangling '\\'"

end GlobFault

/-! ## Classes -/

namespace GlobClass

/-- Sets the upper bound of the last range; the last range comes first. -/
def extendLast (ranges : List (Char × Char)) (c : Char) :
    Except GlobFault (List (Char × Char)) :=
  match ranges with
  | [] => .ok [(c, c)]
  | (first, _) :: rest =>
    if c < first then .error (.invalidRange first c) else .ok ((first, c) :: rest)

/-- The ranges of a class up to its closing bracket, the last one first, and the text behind it;
nothing if there is no closing bracket. A bracket or dash that comes first stands for itself, and
so does a dash that comes last; `dash` tells that a dash has just been read. -/
def readRanges (isFirst dash : Bool) (ranges : List (Char × Char)) :
    List Char → Except GlobFault (Option (List (Char × Char) × List Char))
  | [] => .ok none
  | c :: rest =>
    if isFirst then
      readRanges false false ((c, c) :: ranges) rest
    else if c = ']' then
      .ok (some (if dash then ('-', '-') :: ranges else ranges, rest))
    else if dash then
      match extendLast ranges c with
      | .ok ranges => readRanges false false ranges rest
      | .error e => .error e
    else if c = '-' then readRanges false true ranges rest
    else readRanges false false ((c, c) :: ranges) rest

def read (cs : List Char) : Except GlobFault (Option (GlobToken × List Char)) := do
  let (negated, cs) := match cs with
    | '!' :: rest => (true, rest)
    | '^' :: rest => (true, rest)
    | _ => (false, cs)
  match ← readRanges true false [] cs with
  | some (ranges, rest) => .ok (some (.oneOf negated ranges.reverse, rest))
  | none => .ok none

end GlobClass

/-! ## Reading -/

/-- A choice that is not closed yet: what comes before it, and its branches that are complete, the
last part and the last branch first. -/
structure OpenChoice where
  before : List GlobToken
  branches : List (List GlobToken)

/-- What has been read of a glob: the parts of the branch that is read, the last one first, and the
choices that are open, the inner one first. -/
structure GlobReader where
  tokens : List GlobToken := []
  choices : List OpenChoice := []
  /-- The character before the next one. -/
  previous : Option Char := none
  /-- Has a bracket been met that is not closed? -/
  unclosed : Bool := false

namespace GlobReader

def push (r : GlobReader) (t : GlobToken) (previous : Char) : GlobReader :=
  { r with tokens := t :: r.tokens, previous := some previous }

def openChoice (r : GlobReader) : GlobReader :=
  { r with tokens := [], choices := ⟨r.tokens, []⟩ :: r.choices, previous := some '{' }

/-- Begins the next branch; outside of choices a comma stands for itself. -/
def nextBranch (r : GlobReader) : GlobReader :=
  match r.choices with
  | [] => r.push (.char ',') ','
  | c :: rest =>
    { r with
      tokens := []
      choices := { c with branches := r.tokens.reverse :: c.branches } :: rest
      previous := some ',' }

def closeChoice (r : GlobReader) : Except GlobFault GlobReader :=
  match r.choices with
  | [] => .error .unopenedChoice
  | c :: rest =>
    let branches := (r.tokens.reverse :: c.branches).reverse
    .ok { r with tokens := .choice branches :: c.before, choices := rest, previous := some '}' }

def pushStars (r : GlobReader) : GlobReader := (r.push .anyRun '*').push .anyRun '*'

/-- Puts directories in the place of the part before two stars, unless there are such already. -/
def foldDirs (r : GlobReader) (t : GlobToken) (previous : Char) : GlobReader :=
  match r.tokens with
  | .dirsBefore :: _ => { r with previous := some previous }
  | .dirsAfter :: _ => { r with previous := some previous }
  | _ :: rest => { r with tokens := t :: rest, previous := some previous }
  | [] => r.push t previous

/-- Reads two stars, of which `rest` follows. They stand for directories if they fill the space
between two slashes, or between a slash and an end. -/
def twoStars (r : GlobReader) (rest : List Char) : GlobReader × List Char :=
  let inChoice := !r.choices.isEmpty
  if r.tokens.isEmpty then
    match rest with
    | [] => (r.push .dirsBefore '*', [])
    | '/' :: rest => (r.push .dirsBefore '/', rest)
    | _ => (r.pushStars, rest)
  else if r.previous != some '/'
      && !(inChoice && (r.previous == some ',' || r.previous == some '{')) then
    (r.pushStars, rest)
  else
    match rest with
    | [] => (r.foldDirs .dirsAfter '*', [])
    | '/' :: rest => (r.foldDirs .dirsBetween '/', rest)
    | c :: _ =>
      if inChoice && (c == ',' || c == '}') then (r.foldDirs .dirsAfter '*', rest)
      else (r.pushStars, rest)

def readPart (rules : GlobRules) (r : GlobReader) (c : Char) (rest : List Char) :
    Except GlobFault (GlobReader × List Char) :=
  match c with
  | '?' => .ok (r.push .anyOne '?', rest)
  | '*' =>
    match rest with
    | '*' :: rest => .ok (r.twoStars rest)
    | _ => .ok (r.push .anyRun '*', rest)
  | '[' =>
    if r.unclosed then .ok (r.push (.char '[') '[', rest)
    else
      match GlobClass.read rest with
      | .error e => .error e
      | .ok (some (t, rest)) => .ok (r.push t ']', rest)
      | .ok none =>
        if rules.openBrackets then
          .ok ({ r with unclosed := true }.push (.char '[') '[', rest)
        else .error .unclosedClass
  | '{' => .ok (r.openChoice, rest)
  | '}' => r.closeChoice.map (·, rest)
  | ',' => .ok (r.nextBranch, rest)
  | '\\' =>
    match rest with
    | [] => .error .danglingEscape
    | c :: rest => .ok (r.push (.char c) c, rest)
  | c => .ok (r.push (.char c) c, rest)

/-- Reads all parts; `fuel` bounds their number. -/
def readParts (rules : GlobRules) : Nat → GlobReader → List Char → Except GlobFault GlobReader
  | 0, r, _ => .ok r
  | _ + 1, r, [] => .ok r
  | fuel + 1, r, c :: rest =>
    match r.readPart rules c rest with
    | .ok (r, rest) => readParts rules fuel r rest
    | .error e => .error e

end GlobReader

structure Glob where
  rules : GlobRules
  tokens : List GlobToken
  deriving Repr

def Glob.read (rules : GlobRules) (text : List Char) : Except GlobFault Glob :=
  match GlobReader.readParts rules text.length {} text with
  | .error e => .error e
  | .ok r => if r.choices.isEmpty then .ok ⟨rules, r.tokens.reverse⟩ else .error .unclosedChoice

end CodeAtlas
