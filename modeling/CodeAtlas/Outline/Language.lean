/-!
# Languages of script files

- `Language`: the languages, each with a grammar of its own.
- `Language.name`: the name in written records.
- `Language.ofExtension?`: the language of a file name extension.
-/

namespace CodeAtlas

inductive Language where
  | javaScript
  | typeScript
  | tsx
  deriving DecidableEq, Inhabited, Repr

namespace Language

def all : List Language := [.javaScript, .typeScript, .tsx]

def name : Language → String
  | javaScript => "javascript"
  | typeScript => "typescript"
  | tsx => "tsx"

/-- The language of a file name extension; case matters. -/
def ofExtension? (extension : String) : Option Language :=
  match extension with
  | "js" => some javaScript
  | "jsx" => some javaScript
  | "ts" => some typeScript
  | "tsx" => some tsx
  | _ => none

def ofName? (s : String) : Option Language := all.find? (·.name == s)

theorem ofName?_name (l : Language) : ofName? l.name = some l := by
  cases l <;> decide

end Language

end CodeAtlas
