import CodeAtlas.Ignore.Glob
import CodeAtlas.Text.Utf8

/-!
# Matching globs

A glob is matched with the bytes of a path. All ways to match are followed at once: before each
byte, and at the end, stands a mark that tells whether the parts so far can match up to there.

- `Marks`: one mark more than there are bytes.
- `Marks.one`, `Marks.run`: marks behind one byte, and behind any number of bytes.
- `GlobToken.advance`: the marks behind a part of a glob.
- `Glob.matchesPath`: does a glob match a path?
-/

namespace CodeAtlas

/-- A mark before each byte of a path, and one at its end. -/
abbrev Marks := List Bool

namespace Marks

def start (s : Bytes) : Marks := true :: s.map fun _ => false

/-- Behind one byte that passes a test. -/
def one (test : UInt8 → Bool) (s : Bytes) (m : Marks) : Marks :=
  false :: List.zipWith (fun b marked => marked && test b) s m

/-- Behind any number of bytes that pass a test; `reached` tells whether a run comes up to this
place. -/
def runFrom (test : UInt8 → Bool) (reached : Bool) : Bytes → Marks → Marks
  | b :: s, marked :: m =>
    let here := reached || marked
    here :: runFrom test (here && test b) s m
  | [], marked :: _ => [reached || marked]
  | _, [] => []

/-- Behind any number of bytes that pass a test. -/
def run (test : UInt8 → Bool) (s : Bytes) (m : Marks) : Marks := runFrom test false s m

def union (m n : Marks) : Marks := List.zipWith (· || ·) m n

def atEnd (m : Marks) : Bool := m.getLast?.getD false

end Marks

/-! ## Bytes -/

def slashByte : UInt8 := 47

def isSlashByte (b : UInt8) : Bool := b == slashByte

/-- The bytes that a wildcard may stand for. -/
def wildByte (rules : GlobRules) (b : UInt8) : Bool := rules.crossing || !isSlashByte b

/-- The bounds on bytes that the bounds on characters become. Characters of several bytes fall
apart, and only the bytes at the dash bound a range. -/
def byteRanges (first last : Char) : List (UInt8 × UInt8) :=
  let single (b : UInt8) := (b, b)
  let firstBytes := String.utf8EncodeChar first
  if first = last then firstBytes.map single
  else
    let lastBytes := String.utf8EncodeChar last
    firstBytes.dropLast.map single
      ++ [(firstBytes.getLast?.getD 0, lastBytes.head?.getD 0)]
      ++ lastBytes.tail.map single

def inClass (negated : Bool) (ranges : List (Char × Char)) (b : UInt8) : Bool :=
  let bounds := ranges.flatMap fun (first, last) => byteRanges first last
  (bounds.any fun (first, last) => first ≤ b && b ≤ last) != negated

/-! ## Parts -/

/-- Behind any directories that end with a slash. -/
def Marks.behindDirs (s : Bytes) (m : Marks) : Marks :=
  Marks.one isSlashByte s (Marks.run (fun _ => true) s m)

namespace GlobToken

mutual

/-- Does a part stand for nothing, as a choice without branches that are more than nothing? -/
def isVoid : GlobToken → Bool
  | choice branches => areVoidBranches branches
  | _ => false

def areVoid : List GlobToken → Bool
  | [] => true
  | t :: ts => isVoid t && areVoid ts

def areVoidBranches : List (List GlobToken) → Bool
  | [] => true
  | b :: bs => areVoid b && areVoidBranches bs

end

mutual

def advance (rules : GlobRules) (s : Bytes) (m : Marks) : GlobToken → Marks
  | char c => (String.utf8EncodeChar c).foldl (fun m b => Marks.one (· == b) s m) m
  | anyOne => Marks.one (wildByte rules) s m
  | anyRun => Marks.run (wildByte rules) s m
  | dirsBefore => m.union (Marks.behindDirs s m)
  | dirsAfter => Marks.run (fun _ => true) s (Marks.one isSlashByte s m)
  | dirsBetween =>
    let behind := Marks.one isSlashByte s m
    behind.union (Marks.behindDirs s behind)
  | oneOf negated ranges => Marks.one (inClass negated ranges) s m
  | choice branches =>
    if areVoidBranches branches then m else advanceBranches rules s m branches

def advanceAll (rules : GlobRules) (s : Bytes) (m : Marks) : List GlobToken → Marks
  | [] => m
  | t :: ts => advanceAll rules s (advance rules s m t) ts

/-- The marks behind one of several branches; those that stand for nothing are left out. -/
def advanceBranches (rules : GlobRules) (s : Bytes) (m : Marks) : List (List GlobToken) → Marks
  | [] => m.map fun _ => false
  | b :: bs =>
    let others := advanceBranches rules s m bs
    if areVoid b then others else (advanceAll rules s m b).union others

end

/-! ## Last names -/

def isNameChar : GlobToken → Bool
  | char c => c != '/'
  | _ => false

def isChar : GlobToken → Bool
  | char _ => true
  | _ => false

end GlobToken

namespace Glob

/-- Does the glob ask for a last name, in any directory? -/
def asksForName (g : Glob) : Bool :=
  match g.tokens with
  | .dirsBefore :: t :: ts => (t :: ts).all GlobToken.isNameChar
  | _ => false

/-- Does the glob ask for a certain end of the path, whatever comes before it? -/
def asksForEnd (g : Glob) : Bool :=
  let inner := match g.tokens with
    | .dirsBefore :: ts => ts
    | ts => ts
  let rest := match inner with
    | .anyRun :: ts => if g.rules.crossing then ts else inner
    | _ => inner
  rest.all GlobToken.isChar && rest.length < g.tokens.length

/-- Does the glob ask for any name with the extension of a single dot? -/
def asksForDot (g : Glob) : Bool :=
  match g.tokens with
  | [.dirsBefore, .anyRun, .char '.'] => true
  | [.anyRun, .char '.'] => g.rules.crossing
  | _ => false

/-- Does the glob look at the last name of a path that ends with a dot? Such a path has no last
name. -/
def looksAtName (g : Glob) : Bool :=
  match g.tokens.getLast? with
  | some (.char '.') =>
    g.asksForName || g.asksForDot || (!g.tokens.all GlobToken.isChar && !g.asksForEnd)
  | _ => false

/-- Does the pattern of a glob match some bytes as a whole? -/
def matchesBytes (g : Glob) (s : Bytes) : Bool :=
  match g.tokens with
  | [.dirsBefore] => true
  | tokens => (GlobToken.advanceAll g.rules s (Marks.start s) tokens).atEnd

def matchesPath (g : Glob) (path : List Char) : Bool :=
  !(path.getLast? == some '.' && g.looksAtName) && g.matchesBytes (encodeUtf8 path)

end Glob

end CodeAtlas
