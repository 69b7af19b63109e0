import CodeAtlas.Files.FileSystem
import CodeAtlas.Ignore.Match
import CodeAtlas.Text.Blank

/-!
# Ignore files

An ignore file lists globs, one a line, for the paths below its directory. Of the globs that match
a path the last one decides.

- `IgnoreRule`: what a line says.
- `IgnoreRule.read`: reads a line.
- `Gitignore`: the rules of a file.
- `Gitignore.ofBytes`: reads a file.
- `Gitignore.ignores`: is a path ignored?
-/

namespace CodeAtlas

structure IgnoreRule where
  glob : Glob
  /-- Brings paths back that other rules ignore. -/
  negated : Bool
  directoriesOnly : Bool
  deriving Repr

inductive IgnoreFault where
  | glob (text : List Char) (fault : GlobFault)
  | notText
  | unreadable (error : FileError)
  deriving DecidableEq, Repr

def globMessage (text : List Char) (fault : GlobFault) : String :=
  s!"error parsing glob '{String.ofList text}': {fault.message}"

def IgnoreFault.message : IgnoreFault → String
  | glob text fault => globMessage text fault
  | notText => "stream did not contain valid UTF-8"
  | unreadable e => e.message

/-! ## Lines -/

namespace IgnoreRule

/-- In ignore files wildcards do not stand for slashes, and open brackets stand for themselves. -/
def rules : GlobRules := ⟨false, true⟩

/-- A text without a certain end, if it has that end. -/
def dropEnd? (ending text : List Char) : Option (List Char) :=
  if ending.isSuffixOf text then some (text.take (text.length - ending.length)) else none

/-- Lets a glob match in any directory, unless it can do so already. -/
def anywhere (text : List Char) : List Char :=
  if "**/".toList.isPrefixOf text || text == "**".toList then text else "**/".toList ++ text

/-- Lets a glob that ends with directories match only what is inside of them. -/
def insideOnly (text : List Char) : List Char :=
  if "/**".toList.isSuffixOf text then text ++ "/*".toList else text

/-- Takes the mark of a negation and the slash at the start of a line away, and tells whether they
were there. A backslash keeps a mark. -/
def readMarks (text : List Char) : Bool × Bool × List Char :=
  let slash (text : List Char) : Bool × List Char := match text with
    | '/' :: rest => (true, rest)
    | _ => (false, text)
  match text with
  | '\\' :: '!' :: rest => (false, false, '!' :: rest)
  | '\\' :: '#' :: rest => (false, false, '#' :: rest)
  | '!' :: rest => (true, slash rest)
  | _ => (false, slash text)

/-- Takes the slash at the end of a line away, with a backslash before it, and tells whether it was
there. -/
def readEnd (text : List Char) : Bool × List Char :=
  match dropEnd? ['/'] text with
  | some text => (true, (dropEnd? ['\\'] text).getD text)
  | none => (false, text)

/-- The rule of a line; comments and empty lines have none. Blanks at the end count only behind a
backslash. A glob without a slash matches in any directory. -/
def read (line : List Char) : Except IgnoreFault (Option IgnoreRule) :=
  if line.head? == some '#' then .ok none
  else
    let line := if ['\\', ' '].isSuffixOf line then line else trimEnd line
    if line.isEmpty then .ok none
    else
      let (negated, rooted, text) := readMarks line
      let (directoriesOnly, text) := readEnd text
      let text := if rooted || text.contains '/' then text else anywhere text
      match Glob.read rules (insideOnly text) with
      | .ok glob => .ok (some ⟨glob, negated, directoriesOnly⟩)
      | .error fault => .error (.glob line fault)

end IgnoreRule

/-! ## Files -/

/-- A fault with the number of its line, if the file could be opened. -/
structure LineFault where
  line : Option Nat
  fault : IgnoreFault
  deriving DecidableEq, Repr

/-- The rules of an ignore file for the paths below a root. -/
structure Gitignore where
  root : Location
  rules : List IgnoreRule
  deriving Repr

namespace Gitignore

/-- The lines of a file, without their line ends. -/
def linesOf (bytes : Bytes) : List Bytes :=
  let withoutReturn (line : Bytes) : Bytes :=
    if line.getLast? == some 13 then line.dropLast else line
  let rec finish : List Bytes → List Bytes
    | [] => []
    | [last] => if last.isEmpty then [] else [last]
    | line :: rest => withoutReturn line :: finish rest
  finish (splitWhere (· == (10 : UInt8)) bytes)

/-- The rules and the faults of some lines, of which the first one has a number. A line that is no
text ends the file. -/
def readLines : Nat → List Bytes → List IgnoreRule × List LineFault
  | _, [] => ([], [])
  | n, line :: rest =>
    match decodeStrict? line with
    | none => ([], [⟨n, .notText⟩])
    | some text =>
      let text := if n = 1 then text.dropWhile (· == byteOrderMark) else text
      let (rules, faults) := readLines (n + 1) rest
      match IgnoreRule.read text with
      | .ok none => (rules, faults)
      | .ok (some rule) => (rule :: rules, faults)
      | .error fault => (rules, ⟨n, fault⟩ :: faults)

/-- The rules of a file for the paths below a root, or all that is wrong with it. -/
def ofBytes (root : Location) (bytes : Bytes) : Except (List LineFault) Gitignore :=
  match readLines 1 (linesOf bytes) with
  | (rules, []) => .ok ⟨root, rules⟩
  | (_, faults) => .error faults

def dropStart (start text : List Char) : List Char :=
  if start.isPrefixOf text then text.drop start.length else text

/-- The text of a path as the rules see it: without the root and the slash behind it. -/
def localText (root : Location) (p : Path) : List Char :=
  let text := dropStart ['.', '/'] p.text
  let start := (Path.ofLocation root).text
  if text.contains '/' && start.isPrefixOf text then dropStart ['/'] (dropStart start text)
  else text

/-- Is a path ignored? The last rule that matches decides. -/
def ignores (g : Gitignore) (p : Path) (isDirectory : Bool) : Bool :=
  let text := localText g.root p
  let applies (r : IgnoreRule) : Bool :=
    (!r.directoriesOnly || isDirectory) && r.glob.matchesPath text
  (g.rules.reverse.find? applies).any (!·.negated)

end Gitignore

end CodeAtlas
