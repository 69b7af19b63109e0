/-!
# Symbols

What an outline of a script lists: functions, classes, methods and routes.

- `SymbolKind`, `Symbol`: a symbol with its name and, on demand, its line.
- `FileStatus`: how the symbols of a file came about.
- `FileSymbols`: the symbols of a text.
-/

namespace CodeAtlas

inductive SymbolKind where
  | function
  | classDecl
  | method
  /-- The registration of a handler with a web server. -/
  | route
  deriving DecidableEq, Inhabited, Repr

namespace SymbolKind

def all : List SymbolKind := [.function, .classDecl, .method, .route]

def name : SymbolKind → String
  | function => "function"
  | .classDecl => "class"
  | method => "method"
  | route => "route"

def ofName? (s : String) : Option SymbolKind := all.find? (·.name == s)

theorem ofName?_name (k : SymbolKind) : ofName? k.name = some k := by
  cases k <;> decide

end SymbolKind

structure Symbol where
  kind : SymbolKind
  name : String
  line : Option Nat := none
  deriving DecidableEq, Inhabited, Repr

namespace Symbol

def eraseLine (s : Symbol) : Symbol := { s with line := none }

end Symbol

/-- How the symbols of a file came about. -/
inductive FileStatus where
  /-- The text has no errors. -/
  | parsed
  /-- The text has errors, and its symbols are those of the parts that could be read. -/
  | recovered
  /-- The text has errors, and its symbols are left out. -/
  | unparsable
  /-- The file could not be read. -/
  | unreadable
  /-- The file is too large. -/
  | tooLarge
  deriving DecidableEq, Inhabited, Repr

namespace FileStatus

def all : List FileStatus := [.parsed, .recovered, .unparsable, .unreadable, .tooLarge]

def name : FileStatus → String
  | parsed => "parsed"
  | recovered => "recovered"
  | unparsable => "unparsable"
  | unreadable => "unreadable"
  | tooLarge => "too_large"

def ofName? (s : String) : Option FileStatus := all.find? (·.name == s)

theorem ofName?_name (f : FileStatus) : ofName? f.name = some f := by
  cases f <;> decide

end FileStatus

/-- The symbols of a text under one grammar, and whether the text has errors that count. -/
structure FileSymbols where
  symbols : List Symbol
  hasErrors : Bool
  deriving DecidableEq, Inhabited, Repr

end CodeAtlas
