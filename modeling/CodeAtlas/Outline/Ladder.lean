import CodeAtlas.Grammar.JavaScript
import CodeAtlas.Grammar.TypeScript
import CodeAtlas.Grammar.Tsx
import CodeAtlas.Outline.Extract
import CodeAtlas.Outline.Fault
import CodeAtlas.Outline.Language
import CodeAtlas.Syntax.Parse

/-!
# The symbols of a script

A script is read with the grammar of its own language first. If there are errors, the grammar with
types and elements is tried, which admits the most. If errors remain, the script has no symbols,
unless the symbols of the first reading are asked for.

- `Language.grammar`: the grammar of a language.
- `fileSymbols`: the symbols of a text under one grammar.
- `extractSymbols`: the symbols of a script, and how they came about.
-/

namespace CodeAtlas

def Language.grammar : Language → Grammar
  | .javaScript => JavaScript.grammar
  | .typeScript => TypeScript.grammar
  | .tsx => Tsx.grammar

structure OutlineOptions where
  /-- Give each symbol its line? -/
  lines : Bool := false
  /-- Keep the symbols of texts with errors? -/
  lenient : Bool := false
  deriving DecidableEq, Inhabited, Repr

/-- The symbols of a tree and whether it holds errors that count. -/
def SyntaxTree.fileSymbols (tree : SyntaxTree) (lines : Bool) : FileSymbols :=
  ⟨symbolsOf tree lines, hasFatalErrors tree⟩

def fileSymbols (language : Language) (lines : Bool) (src : Source) : FileSymbols :=
  (parse language.grammar src).fileSymbols lines

/-- The choice between the readings of a script: `own` is that of its own grammar, `wide` that of
the grammar that admits the most, if that is another one. -/
def chooseReading (lenient : Bool) (own : FileSymbols) (wide : Unit → Option FileSymbols) :
    List Symbol × FileStatus :=
  if !own.hasErrors then (own.symbols, .parsed)
  else
    match (wide ()).filter (!·.hasErrors) with
    | some retry => (retry.symbols, .parsed)
    | none => if lenient then (own.symbols, .recovered) else ([], .unparsable)

/-- The symbols of a script, and how they came about. -/
def extractSymbols (src : Source) (language : Language) (options : OutlineOptions) :
    List Symbol × FileStatus :=
  chooseReading options.lenient (fileSymbols language options.lines src) fun _ =>
    if language = .tsx then none else some (fileSymbols .tsx options.lines src)

end CodeAtlas
