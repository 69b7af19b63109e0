import CodeAtlas.Atlas.ProjectMap
import CodeAtlas.Command.Arguments

/-!
# Help on the command line

- `HelpItem`: what is said of an argument.
- `shortHelp`, `fullHelp`: the texts of help.
- `versionText`: the name and the version of the program.
- `refusalText`: the report of arguments that are not followed.
-/

namespace CodeAtlas

/-- What is said of an argument: how it is written, what it does, and what it is if it is left
out. -/
structure HelpItem where
  form : String
  about : String
  default : Option String := none

namespace HelpItem

def option (letter : Option Char) (name : String) (value : Option String) (about : String)
    (default : Option String) : HelpItem where
  form :=
    (match letter with
      | some c => s!"-{c}, "
      | none => "    ") ++ s!"--{name}" ++
    match value with
      | some v => s!" <{v}>"
      | none => ""
  about := about
  default := default

def ofFlag (f : Flag) (about : String) : HelpItem :=
  option (if f = .verbose then some 'v' else none) f.name none about none

def ofSetting (s : Setting) (value about : String) (default : Option String) : HelpItem :=
  option none s.name (some value) about default

def positionals : List HelpItem := [
  ⟨"[PATH]", "Project root directory to scan", some "."⟩,
  ⟨"[OUTPUT]", "Output file (\"-\" for stdout)", some "project-structure.json"⟩]

/-- The options; `full` tells which help this is. -/
def options (full : Bool) : List HelpItem := [
  ofFlag .compact "Write compact JSON instead of pretty-printed",
  ofFlag .lines "Add line numbers to symbols",
  ofFlag .lenient "Keep symbols from files with syntax errors",
  ofSetting .excludeDir "EXCLUDE_DIR" "Additional directory names to skip" none,
  ofFlag .noDefaultExcludes "Do not skip node_modules, dist and build",
  ofSetting .ignore "IGNORE" "Additional ignore patterns (glob, relative to the root)" none,
  ofFlag .gitignore "Honour the root .gitignore",
  ofFlag .followSymlinks "Follow symbolic links",
  ofSetting .maxFileSize "MAX_FILE_SIZE"
    "Files larger than this many bytes are listed without symbols" (some "10485760"),
  ofSetting .threads "THREADS" "Parallel threads (0 = auto)" (some "0"),
  ofFlag .verbose "Show progress and a summary on stderr",
  option (some 'h') "help" none
    (if full then "Print help (see a summary with '-h')" else "Print help (see more with '--help')")
    none,
  option (some 'V') "version" none "Print version" none]

/-- The item on one line, with the explanation at a column. -/
def shortLine (column : Nat) (item : HelpItem) : String :=
  let gap := String.ofList (List.replicate (column - item.form.length) ' ')
  let default := match item.default with
    | some d => s!" [default: {d}]"
    | none => ""
  s!"  {item.form}{gap}{item.about}{default}\n"

/-- The items on a line each, with all explanations at one column. -/
def shortLines (items : List HelpItem) : String :=
  let column := (items.map (·.form.length)).foldl max 0 + 2
  String.join (items.map (shortLine column))

def margin : String := "          "

def fullLines (item : HelpItem) : String :=
  let default := match item.default with
    | some d => s!"{margin}\n{margin}[default: {d}]\n"
    | none => ""
  s!"  {item.form}\n{margin}{item.about}\n{default}"

end HelpItem

def usage : String := "Usage: projectmap [OPTIONS] [PATH] [OUTPUT]"

def summaryText : String :=
  "Map the directory structure and symbols of JavaScript/TypeScript projects"

def aboutText : String :=
  "Walks a project directory, parses every .js, .jsx, .ts and .tsx file with Tree-sitter and "
    ++ "writes a JSON tree mirroring the directory layout. Each file lists its function "
    ++ "declarations, function-valued variables, classes, class methods and Express-style route "
    ++ "registrations (app/router .get/.post/.put/.delete/.patch).\n\n"
    ++ "node_modules, dist and build directories are skipped. Files with syntax errors are kept "
    ++ "with an empty symbol list unless --lenient is given."

def shortHelp : String :=
  s!"{summaryText}\n\n{usage}\n\nArguments:\n{HelpItem.shortLines HelpItem.positionals}\n"
    ++ s!"Options:\n{HelpItem.shortLines (HelpItem.options false)}"

def fullHelp : String :=
  let blocks (items : List HelpItem) : String := "\n".intercalate (items.map HelpItem.fullLines)
  let arguments := blocks HelpItem.positionals
  let options := blocks (HelpItem.options true)
  s!"{aboutText}\n\n{usage}\n\nArguments:\n{arguments}\nOptions:\n{options}"

def versionText : String := s!"projectmap {version}\n"

def ArgumentError.message : ArgumentError → String
  | unknownArgument => "unexpected argument found"
  | invalidValue => "a value is required but none was supplied"
  | valueValidation => "a value is not a whole number of 64 bits"
  | argumentConflict => "an option cannot be used multiple times"
  | tooManyValues => "an option that takes no value has one"
  | displayHelp _ => "help requested"
  | displayVersion => "version requested"

def refusalText (e : ArgumentError) : String :=
  s!"error: {e.message}\n\n{usage}\n\nFor more information, try '--help'.\n"

end CodeAtlas
