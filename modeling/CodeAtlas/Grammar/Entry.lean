import CodeAtlas.Parsing.Grammar

/-!
# Entries of a grammar

The tokens of a grammar are listed in the order of their numbers. An entry says how a token shows
up in trees and how it looks in the text.

- `Entry`: a token.
- `Entry.fixed`, `Entry.pattern`, …: the common forms of entries.
- `candidates`, `keywordCandidates`: the rules for a set of tokens.
-/

namespace CodeAtlas

structure TokenForm where
  pattern : Regex
  precedence : Int
  rank : Nat
  immediate : Bool

/-- A token. Tokens that are recognised by their context have no form. -/
structure Entry where
  info : SymbolInfo
  form : Option TokenForm

namespace Entry

def fixedAs (kind : Kind) (text : String) : Entry :=
  ⟨.visible kind, some ⟨.ofList text.toList, 0, 2, false⟩⟩

def fixed (text : String) : Entry := fixedAs (.token text) text

/-- A fixed text that admits no blanks in front of it. -/
def fixedInside (text : String) (precedence : Int) : Entry :=
  ⟨.visible (.token text), some ⟨.ofList text.toList, precedence, 3, true⟩⟩

def pattern (kind : Kind) (pattern : Regex) : Entry :=
  ⟨.visible kind, some ⟨pattern, 0, 0, false⟩⟩

/-- A token with a pattern that admits no blanks in front of it. -/
def inside (kind : Kind) (pattern : Regex) (precedence : Int) : Entry :=
  ⟨.visible kind, some ⟨pattern, precedence, 1, true⟩⟩

/-- A token that is recognised by its context. -/
def lookAhead (kind : Kind) : Entry := ⟨.visible kind, none⟩

def lookAheadHidden (name : String) : Entry := ⟨.hidden name, none⟩

def node (kind : Kind) : SymbolInfo := .visible kind

def hidden (name : String) : SymbolInfo := .hidden name

def rule? (e : Entry) (symbol : SymbolId) : Option TokenRule :=
  e.form.map fun f => ⟨symbol, f.pattern, f.precedence, f.rank, f.immediate⟩

/-- The rules for the entries in a set, when the first entry has the number `symbol`. -/
def rules (set : Nat) : SymbolId → List Entry → List TokenRule
  | _, [] => []
  | symbol, e :: rest =>
    match set.testBit symbol, e.rule? symbol with
    | true, some r => r :: rules set (symbol + 1) rest
    | _, _ => rules set (symbol + 1) rest

def candidates (tokens : List Entry) (set : Nat) : Candidates :=
  .ofRules (rules set 1 tokens) (set.testBit endSymbol)

/-- The candidates for keywords, which stand where a word has been found. -/
def keywordCandidates (tokens : List Entry) (set : Nat) : Candidates :=
  ⟨[], (rules set 1 tokens).map (fun r => ⟨r, [r.pattern]⟩), false⟩

def symbolTable (tokens : List Entry) (nonterminals : List SymbolInfo) : Array SymbolInfo :=
  (SymbolInfo.hidden "end" :: tokens.map Entry.info ++ nonterminals).toArray

end Entry

end CodeAtlas
