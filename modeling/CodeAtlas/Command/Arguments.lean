import CodeAtlas.Scan.Config

/-!
# Arguments of the command line

- `Arguments`: what the arguments ask for.
- `Flag`, `Setting`: the options without and with a value.
- `Arguments.read`: reads a list of arguments.
- `ArgumentError`: why a list of arguments is not followed.

Options may stand in any order. The value of an option is the next argument, or follows an equals
sign. Two arguments that are no options are the path and the output, and behind two dashes all
arguments are of this sort. An argument that waits, such as a value, is looked at only when the
next one is known to be an option or to be of this sort as well.
-/

namespace CodeAtlas

structure Arguments where
  /-- The directory to scan. -/
  path : String := "."
  /-- The file to write, or a dash. -/
  output : String := "project-structure.json"
  compact : Bool := false
  lines : Bool := false
  lenient : Bool := false
  excludeDirs : List String := []
  noDefaultExcludes : Bool := false
  ignore : List String := []
  gitignore : Bool := false
  followSymlinks : Bool := false
  maxFileSize : Nat := 10 * 1024 * 1024
  threads : Nat := 0
  verbose : Bool := false
  deriving DecidableEq, Inhabited, Repr

/-- Why a list of arguments is not followed. -/
inductive ArgumentError where
  | unknownArgument
  | invalidValue
  | valueValidation
  | argumentConflict
  | tooManyValues
  /-- Help is asked for, in full or in short. -/
  | displayHelp (full : Bool)
  | displayVersion
  deriving DecidableEq, Repr

/-- Only questions for help and for the version are no failures. -/
def ArgumentError.exitCode : ArgumentError → Nat
  | displayHelp _ | displayVersion => 0
  | _ => 2

/-! ## Options -/

inductive Flag where
  | compact
  | lines
  | lenient
  | noDefaultExcludes
  | gitignore
  | followSymlinks
  | verbose
  deriving DecidableEq, Repr

namespace Flag

def all : List Flag :=
  [compact, lines, lenient, noDefaultExcludes, gitignore, followSymlinks, verbose]

def name : Flag → String
  | compact => "compact"
  | lines => "lines"
  | lenient => "lenient"
  | noDefaultExcludes => "no-default-excludes"
  | gitignore => "gitignore"
  | followSymlinks => "follow-symlinks"
  | verbose => "verbose"

def isSet (a : Arguments) : Flag → Bool
  | compact => a.compact
  | lines => a.lines
  | lenient => a.lenient
  | noDefaultExcludes => a.noDefaultExcludes
  | gitignore => a.gitignore
  | followSymlinks => a.followSymlinks
  | verbose => a.verbose

def set (a : Arguments) : Flag → Arguments
  | compact => { a with compact := true }
  | lines => { a with lines := true }
  | lenient => { a with lenient := true }
  | noDefaultExcludes => { a with noDefaultExcludes := true }
  | gitignore => { a with gitignore := true }
  | followSymlinks => { a with followSymlinks := true }
  | verbose => { a with verbose := true }

end Flag

inductive Setting where
  | excludeDir
  | ignore
  | maxFileSize
  | threads
  deriving DecidableEq, Repr

namespace Setting

def all : List Setting := [excludeDir, ignore, maxFileSize, threads]

def name : Setting → String
  | excludeDir => "exclude-dir"
  | ignore => "ignore"
  | maxFileSize => "max-file-size"
  | threads => "threads"

end Setting

inductive CommandOption where
  | flag (f : Flag)
  | setting (s : Setting)
  | help
  | version
  deriving DecidableEq, Repr

namespace CommandOption

def ofName? (name : String) : Option CommandOption :=
  if name = "help" then some help
  else if name = "version" then some version
  else
    match Flag.all.find? (·.name == name) with
    | some f => some (flag f)
    | none => (Setting.all.find? (·.name == name)).map setting

/-- The option with a letter; none of these takes a value. -/
def ofLetter? (c : Char) : Option CommandOption :=
  match c with
  | 'v' => some (flag .verbose)
  | 'h' => some help
  | 'V' => some version
  | _ => none

end CommandOption

/-! ## Values -/

/-- A whole number of 64 bits; a plus sign may come before the digits. -/
def readWord (text : String) : Option Nat :=
  let digits := match text.toList with
    | '+' :: rest => rest
    | cs => cs
  if digits.isEmpty || digits.any (fun c => c < '0' || '9' < c) then none
  else
    let n := digits.foldl (fun n c => 10 * n + (c.toNat - '0'.toNat)) 0
    if n < Nat.pow 2 64 then some n else none

/-! ## Reading -/

/-- An argument whose meaning is known but which has not been looked at: a setting with its value,
if that has come, or one of the arguments that are no options. -/
inductive Waiting where
  | setting (s : Setting) (value : Option String)
  | positional (n : Nat) (value : String)
  deriving DecidableEq, Repr

structure ArgumentReader where
  arguments : Arguments := {}
  /-- Settings for single values that have been given. -/
  given : List Setting := []
  waiting : Option Waiting := none
  /-- The number of arguments that are no options. -/
  positionals : Nat := 0
  /-- Have two dashes been met? -/
  onlyPositionals : Bool := false
  deriving Repr

namespace ArgumentReader

/-- Sets a flag, which may be done once. -/
def setFlag (r : ArgumentReader) (f : Flag) : Except ArgumentError ArgumentReader :=
  if f.isSet r.arguments then .error .argumentConflict
  else .ok { r with arguments := f.set r.arguments }

def setNumber (r : ArgumentReader) (s : Setting) (value : String) (set : Nat → Arguments) :
    Except ArgumentError ArgumentReader :=
  if r.given.contains s then .error .argumentConflict
  else
    match readWord value with
    | some n => .ok { r with arguments := set n, given := s :: r.given }
    | none => .error .valueValidation

def setValue (r : ArgumentReader) (s : Setting) (value : String) :
    Except ArgumentError ArgumentReader :=
  let a := r.arguments
  match s with
  | .excludeDir => .ok { r with arguments := { a with excludeDirs := a.excludeDirs ++ [value] } }
  | .ignore => .ok { r with arguments := { a with ignore := a.ignore ++ [value] } }
  | .maxFileSize => r.setNumber s value fun n => { a with maxFileSize := n }
  | .threads => r.setNumber s value fun n => { a with threads := n }

def settle (r : ArgumentReader) : Except ArgumentError ArgumentReader :=
  let done := { r with waiting := none }
  let a := r.arguments
  match r.waiting with
  | none => .ok r
  | some (.setting _ none) => .error .invalidValue
  | some (.setting s (some value)) => done.setValue s value
  | some (.positional n value) =>
    if value.isEmpty then .error .invalidValue
    else if n = 0 then .ok { done with arguments := { a with path := value } }
    else .ok { done with arguments := { a with output := value } }

/-- Reads an option that has no value behind an equals sign. -/
def takeOption (r : ArgumentReader) (o : CommandOption) (full : Bool) :
    Except ArgumentError ArgumentReader := do
  let r ← r.settle
  match o with
  | .flag f => r.setFlag f
  | .setting s => .ok { r with waiting := some (.setting s none) }
  | .help => .error (.displayHelp full)
  | .version => .error .displayVersion

/-- Splits the text of an option at the first equals sign. -/
def splitEquals (text : List Char) : String × Option String :=
  let isEquals := (· == '=')
  let name := String.ofList (text.takeWhile (!isEquals ·))
  match text.dropWhile (!isEquals ·) with
  | [] => (name, none)
  | _ :: value => (name, some (String.ofList value))

def takeLong (r : ArgumentReader) (text : List Char) : Except ArgumentError ArgumentReader :=
  match splitEquals text with
  | (name, value) =>
    match CommandOption.ofName? name, value with
    | none, _ => .error .unknownArgument
    | some o, none => r.takeOption o true
    | some (.setting s), some value => do (← r.settle).setValue s value
    | some _, some _ => .error .tooManyValues

def takeLetters (r : ArgumentReader) : List Char → Except ArgumentError ArgumentReader
  | [] => .ok r
  | c :: rest =>
    match CommandOption.ofLetter? c with
    | none => .error .unknownArgument
    | some o => do (← r.takeOption o false).takeLetters rest

def takePositional (r : ArgumentReader) (value : String) :
    Except ArgumentError ArgumentReader :=
  if 2 ≤ r.positionals then .error .unknownArgument
  else do
    let r ← r.settle
    .ok { r with waiting := some (.positional r.positionals value), positionals := r.positionals + 1 }

/-- Reads an argument that is no option by its form: a value that is waited for, or one of the
others. -/
def takePlain (r : ArgumentReader) (value : String) : Except ArgumentError ArgumentReader :=
  match r.waiting with
  | some (.setting s none) => .ok { r with waiting := some (.setting s (some value)) }
  | _ => r.takePositional value

def take (r : ArgumentReader) (argument : String) : Except ArgumentError ArgumentReader :=
  if r.onlyPositionals then r.takePositional argument
  else
    match argument.toList with
    | ['-', '-'] => .ok { r with onlyPositionals := true }
    | '-' :: '-' :: text => r.takeLong text
    | ['-'] => r.takePlain argument
    | '-' :: letters => r.takeLetters letters
    | _ => r.takePlain argument

def takeAll (r : ArgumentReader) : List String → Except ArgumentError ArgumentReader
  | [] => r.settle
  | argument :: rest => do (← r.take argument).takeAll rest

end ArgumentReader

namespace Arguments

def read (arguments : List String) : Except ArgumentError Arguments :=
  (ArgumentReader.takeAll {} arguments).map (·.arguments)

def config (a : Arguments) : ScanConfig where
  root := .ofString a.path
  defaultExcludes := !a.noDefaultExcludes
  excludedDirs := a.excludeDirs
  ignorePatterns := a.ignore
  gitignore := a.gitignore
  followSymlinks := a.followSymlinks
  maxFileSize := a.maxFileSize
  threads := a.threads
  lines := a.lines
  lenient := a.lenient

end Arguments

end CodeAtlas
