import CodeAtlas.Atlas.Record
import CodeAtlas.Command.Help
import CodeAtlas.Scan.Scanner

/-!
# Running the program

A run reads the arguments, scans the project and writes the document. It is a function of the file
system that it finds, and gives the file system that it leaves.

- `Failure`: why a run fails, with all causes.
- `Outcome`: the result of a run.
- `mapProject`: the map that the arguments ask for.
- `Delivery`, `deliver`: where the document goes.
- `runCommand`: a run.
-/

namespace CodeAtlas

/-! ## Failures -/

/-- Why a run fails: what could not be done, and why, the nearest cause first. -/
structure Failure where
  context : String
  causes : List String
  deriving DecidableEq, Repr

namespace Failure

/-- A text whose lines after the first one stand behind a margin. -/
def indent (margin : String) (text : String) : String :=
  (text.toList.flatMap fun c => if c = '\n' then '\n' :: margin.toList else [c]) |> String.ofList

/-- The lines for a cause; if there are several, they have numbers. -/
def causeText (number : Option Nat) (cause : String) : String :=
  match number with
  | some n =>
    let digits := toString n
    let gap := String.ofList (List.replicate (5 - digits.length) ' ')
    "\n" ++ gap ++ digits ++ ": " ++ indent "       " cause
  | none => "\n    " ++ indent "    " cause

def causesText : List String → String
  | [] => ""
  | [cause] => "\n\nCaused by:" ++ causeText none cause
  | causes =>
    "\n\nCaused by:" ++ String.join (causes.zipIdx.map fun (cause, n) => causeText (some n) cause)

def report (f : Failure) : String := s!"Error: {f.context}{causesText f.causes}\n"

def ofScan (context : String) (e : ScanError) : Failure := ⟨context, e.message :: e.causes⟩

end Failure

/-! ## Runs -/

inductive Outcome where
  /-- The arguments are not followed. -/
  | refused (error : ArgumentError)
  | failed (failure : Failure)
  /-- The document went to the output; `summary` is there if it is asked for. -/
  | done (stdout : String) (map : ProjectMap) (verbose : Bool)

namespace Outcome

def exitCode : Outcome → Nat
  | refused e => e.exitCode
  | failed _ => 1
  | done _ _ _ => 0

def stdout : Outcome → String
  | refused (.displayHelp true) => fullHelp
  | refused (.displayHelp false) => shortHelp
  | refused .displayVersion => versionText
  | refused _ => ""
  | failed _ => ""
  | done text _ _ => text

def report? : Outcome → Option String
  | failed f => some f.report
  | _ => none

def refusal? : Outcome → Option String
  | refused e => if e.exitCode = 0 then none else some (refusalText e)
  | _ => none

def verboseMap? : Outcome → Option ProjectMap
  | done _ m true => some m
  | _ => none

end Outcome

def mapProject (fs : FileSystem) (current : Trail) (metadata : ScanMetadata) (a : Arguments) :
    Except Failure ProjectMap :=
  match Scanner.ofConfig fs current.location a.config with
  | .error e => .error (.ofScan s!"Invalid scan configuration for {a.path}" e)
  | .ok scanner =>
    match scanner.scan fs metadata with
    | .error e => .error (.ofScan s!"Failed to scan {scanner.rootPath}" e)
    | .ok map => .ok map

def Arguments.style (a : Arguments) : JsonStyle := if a.compact then .compact else .pretty

inductive Delivery where
  | print (text : String)
  | save (path : String) (text : String)
  deriving DecidableEq, Repr

/-- The document of a map, and where it goes. A dash stands for what is printed. -/
def Arguments.delivery (a : Arguments) (map : ProjectMap) : Delivery :=
  let document := map.output a.style
  if a.output = "-" then .print (document ++ "\n") else .save a.output document

/-- What is printed when a document has been saved. -/
def savedText (path : String) : String := s!"Project structure written to {path}\n"

def saveFailure (path message : String) : Failure := ⟨s!"Failed to write {path}", [message]⟩

def deliver (fs : FileSystem) (current : Trail) (a : Arguments) (map : ProjectMap) :
    Outcome × FileSystem :=
  match a.delivery map with
  | .print text => (.done text map a.verbose, fs)
  | .save path text =>
    match fs.write current (.ofString path) (encodeUtf8 text.toList) with
    | .error e => (.failed (saveFailure path e.message), fs)
    | .ok written => (.done (savedText path) map a.verbose, written)

/-- A run with the arguments, from a current directory: its outcome, and the file system after
it. -/
def runArguments (fs : FileSystem) (current : Trail) (metadata : ScanMetadata) (a : Arguments) :
    Outcome × FileSystem :=
  match mapProject fs current metadata a with
  | .error failure => (.failed failure, fs)
  | .ok map => deliver fs current a map

def runCommand (fs : FileSystem) (current : Trail) (metadata : ScanMetadata)
    (arguments : List String) : Outcome × FileSystem :=
  match Arguments.read arguments with
  | .error e => (.refused e, fs)
  | .ok a => runArguments fs current metadata a

end CodeAtlas
