import CodeAtlas.Grammar.Entry
import CodeAtlas.Grammar.Lexeme
import CodeAtlas.Grammar.JavaScriptTable

/-!
# The grammar of plain scripts

- `JavaScript.tokens`, `JavaScript.nonterminals`: the symbols, in the order of their numbers.
- `JavaScript.productions`: the names that productions give to their parts.
- `JavaScript.grammar`: the grammar.
-/

namespace CodeAtlas

namespace JavaScript

open Entry

/-- The tokens, from number one on. -/
def tokens : List Entry := [
  pattern .identifier Lexeme.identifier, pattern (.other "hash_bang_line") Lexeme.hashBang,
  fixed "export", fixed "*", fixed "default", fixed "as", fixed "\x7b", fixed ",", fixed "\x7d",
  fixed "import", fixed "from", fixed "with", fixed "assert", fixed "var", fixed "let",
  fixed "const", fixed "else", fixed "if", fixed "switch", fixed "for", fixed "(", fixed ";",
  fixed ")", fixed "await", fixed "in", fixed "of", fixed "while", fixed "do", fixed "try",
  fixed "break", fixed "continue", fixed "debugger", fixed "return", fixed "throw", fixed ":",
  fixed "case", fixed "catch", fixed "finally", fixed "yield", fixed "=", fixed "[", fixed "]",
  pattern (.other "html_character_reference") Lexeme.characterReference, fixed "<", fixed ">",
  pattern .identifier Lexeme.jsxIdentifier, fixed ".", fixed "</", fixed "/>", fixed "\"",
  fixed "'", inside (.other "string_fragment") Lexeme.doubleQuotedAttribute 1,
  inside (.other "string_fragment") Lexeme.singleQuotedAttribute 1, fixed "class",
  fixed "extends", fixed "async", fixed "function", fixed "=>",
  fixedAs (.other "optional_chain") "?.", fixed "new", fixed "using", fixed "+=", fixed "-=",
  fixed "*=", fixed "/=", fixed "%=", fixed "^=", fixed "&=", fixed "|=", fixed ">>=",
  fixed ">>>=", fixed "<<=", fixed "**=", fixed "&&=", fixed "||=", fixed "??=", fixed "...",
  fixed "&&", fixed "||", fixed ">>", fixed ">>>", fixed "<<", fixed "&", fixed "^", fixed "|",
  fixed "+", fixed "-", fixed "/", fixed "%", fixed "**", fixed "<=", fixed "==", fixed "===",
  fixed "!=", fixed "!==", fixed ">=", fixed "??", fixed "instanceof", fixed "!", fixed "~",
  fixed "typeof", fixed "void", fixed "delete", fixed "++", fixed "--",
  inside (.other "string_fragment") Lexeme.doubleQuoted 1,
  inside (.other "string_fragment") Lexeme.singleQuoted 1,
  inside (.other "escape_sequence") Lexeme.escapeSequence 0, pattern .comment Lexeme.comment,
  fixed "`", fixed "$\x7b", fixedInside "/" 1,
  inside (.other "regex_pattern") Lexeme.regexPattern (-1),
  inside (.other "regex_flags") Lexeme.regexFlags 0, pattern (.other "number") Lexeme.number,
  pattern .privatePropertyIdentifier Lexeme.privateIdentifier, fixed "target", fixed "meta",
  fixedAs (.other "this") "this", fixedAs (.other "super") "super",
  fixedAs (.other "true") "true", fixedAs (.other "false") "false",
  fixedAs (.other "null") "null", fixedAs (.other "undefined") "undefined", fixed "@",
  fixed "static", pattern (.token "static get") Lexeme.staticGet, fixed "get", fixed "set",
  lookAheadHidden "_automatic_semicolon", lookAhead (.other "string_fragment"),
  lookAhead (.token "?"), lookAhead .htmlComment, lookAhead (.other "jsx_text")]

def nonterminals : List SymbolInfo := [
  node (.other "program"), node (.other "export_statement"), node (.other "namespace_export"),
  node (.other "export_clause"), node (.other "export_specifier"), hidden "_module_export_name",
  hidden "declaration", node (.other "import"), node (.other "import_statement"),
  node (.other "import_clause"), hidden "_from_clause", node (.other "namespace_import"),
  node (.other "named_imports"), node (.other "import_specifier"),
  node (.other "import_attribute"), hidden "statement", node (.other "expression_statement"),
  node (.other "variable_declaration"), node (.other "lexical_declaration"),
  node .variableDeclarator, node (.other "statement_block"), node (.other "else_clause"),
  node (.other "if_statement"), node (.other "switch_statement"), node (.other "for_statement"),
  node (.other "for_in_statement"), hidden "_for_header", node (.other "while_statement"),
  node (.other "do_statement"), node (.other "try_statement"), node (.other "with_statement"),
  node (.other "break_statement"), node (.other "continue_statement"),
  node (.other "debugger_statement"), node (.other "return_statement"),
  node (.other "throw_statement"), node (.other "empty_statement"),
  node (.other "labeled_statement"), node (.other "switch_body"), node (.other "switch_case"),
  node (.other "switch_default"), node (.other "catch_clause"), node (.other "finally_clause"),
  node .parenthesizedExpression, hidden "expression", hidden "primary_expression",
  node (.other "yield_expression"), node (.other "object"), node (.other "object_pattern"),
  node (.other "assignment_pattern"), node (.other "object_assignment_pattern"),
  node (.other "array"), node (.other "array_pattern"), node .jsxElement,
  node (.other "jsx_expression"), node (.other "jsx_opening_element"), node .memberExpression,
  node (.other "jsx_namespace_name"), node (.other "jsx_closing_element"),
  node (.other "jsx_self_closing_element"), node (.other "jsx_attribute"), node .string,
  node (.other "class"), node .classDeclaration, node (.other "class_heritage"),
  node .functionExpression, node .functionDeclaration, node .generatorFunction,
  node .generatorFunctionDeclaration, node .arrowFunction, node .callExpression,
  node (.other "new_expression"), node (.other "await_expression"), node .memberExpression,
  node (.other "subscript_expression"), node (.other "assignment_expression"),
  hidden "_augmented_assignment_lhs", node (.other "augmented_assignment_expression"),
  hidden "_initializer", hidden "_destructuring_pattern", node (.other "spread_element"),
  node (.other "ternary_expression"), node (.other "binary_expression"),
  node (.other "unary_expression"), node (.other "update_expression"),
  node (.other "sequence_expression"), node .string, node .templateString,
  node .templateSubstitution, node (.other "regex"), node (.other "meta_property"),
  node .arguments, node (.other "decorator"), node .memberExpression, node .callExpression,
  node .classBody, node (.other "field_definition"), node (.other "formal_parameters"),
  node (.other "class_static_block"), hidden "pattern", node (.other "rest_pattern"),
  node .methodDefinition, node (.other "pair"), node (.other "pair_pattern"),
  hidden "_property_name", node (.other "computed_property_name"), hidden "program_repeat1",
  hidden "export_statement_repeat1", hidden "export_clause_repeat1",
  hidden "named_imports_repeat1", hidden "variable_declaration_repeat1",
  hidden "switch_body_repeat1", hidden "object_repeat1", hidden "object_pattern_repeat1",
  hidden "array_repeat1", hidden "array_pattern_repeat1", hidden "jsx_element_repeat1",
  hidden "jsx_opening_element_repeat1", hidden "_jsx_string_repeat1",
  hidden "_jsx_string_repeat2", hidden "sequence_expression_repeat1", hidden "string_repeat1",
  hidden "string_repeat2", hidden "template_string_repeat1", hidden "class_body_repeat1",
  hidden "formal_parameters_repeat1"]

def productions : List Production := [
  ⟨[], []⟩, ⟨[some .identifier], []⟩, ⟨[some .propertyIdentifier], []⟩, ⟨[], [(.name, [.own 0])]⟩,
  ⟨[], [(.function, [.own 0]), (.arguments, [.own 1])]⟩,
  ⟨[some (.other "statement_identifier")], []⟩,
  ⟨[none, some (.other "shorthand_property_identifier")], []⟩,
  ⟨[none, some (.other "shorthand_property_identifier_pattern")], []⟩,
  ⟨[none, some .identifier], []⟩, ⟨[], [(.object, [.own 1])]⟩,
  ⟨[], [(.name, [.own 0]), (.value, [.inherited 1])]⟩, ⟨[], [(.value, [.own 1])]⟩,
  ⟨[], [(.value, [.inherited 1])]⟩, ⟨[none, some (.other "statement_identifier")], []⟩,
  ⟨[], [(.name, [.own 1])]⟩, ⟨[], [(.property, [.own 0])]⟩, ⟨[], [(.arguments, [.own 2])]⟩,
  ⟨[none, none, some .propertyIdentifier], [(.object, [.own 0]), (.property, [.own 2])]⟩,
  ⟨[], [(.object, [.own 0]), (.property, [.own 2])]⟩,
  ⟨[none, none, some .propertyIdentifier], [(.object, [.own 0]), (.property, [.own 2]), (.optionalChain, [.own 1])]⟩,
  ⟨[], [(.object, [.own 0]), (.property, [.own 2]), (.optionalChain, [.own 1])]⟩,
  ⟨[], [(.function, [.own 0]), (.arguments, [.own 2]), (.optionalChain, [.own 1])]⟩,
  ⟨[], [(.value, [.own 2])]⟩, ⟨[some (.other "shorthand_property_identifier_pattern")], []⟩,
  ⟨[], [(.value, [.inherited 2])]⟩, ⟨[], [(.property, [.own 1])]⟩,
  ⟨[], [(.value, [.inherited 1]), (.property, [.own 0])]⟩, ⟨[], [(.object, [.own 0])]⟩,
  ⟨[], [(.name, [.own 2])]⟩, ⟨[], [(.value, [.inherited 2]), (.property, [.own 1])]⟩,
  ⟨[], [(.property, [.own 2])]⟩, ⟨[], [(.object, [.own 0]), (.optionalChain, [.own 1])]⟩,
  ⟨[], [(.value, [.own 3])]⟩, ⟨[], [(.value, [.inherited 3]), (.property, [.own 2])]⟩,
  ⟨[], [(.name, [.own 3])]⟩, ⟨[], [(.name, [.own 4])]⟩, ⟨[], [(.value, [.inherited 3])]⟩]

/-- The tokens that are looked for in each mode, as sets; the end of the text is number zero. -/
def modes : List Nat := [
  0xa019f31bffffffffcc0db70800e00397, 0x2018631801c02000040c370800e00397,
  0xa018631801c02000000c120000600392, 0x2018631bffffc000080cb70800e00393,
  0x2018631801c00000000cb20800200082, 0x20186303ffffdfffcc0cb70800e00392,
  0x46303ffffc0000800b60800e00392, 0xa018200000000000000d9a0000200092,
  0x2000000000000002e10800000082, 0xf000000000000000000000000000, 0x3400000000000004000000000000,
  0x3800000000000008000000000000, 0x2000000000000014080000000000, 0x2000000000000028080000000000,
  0x22000000000000000000000000000, 0x12000000000000000000000000000]

def keywords : Nat :=
  0x35fe000e40000000033c000f7ff1ffc68

def contextModes : List (List ContextToken) := [
  [],
  [.automaticSemicolon, .templateText, .ternaryMark, .htmlComment, .logicalOr, .escapeSequence, .jsxText],
  [.htmlComment], [.ternaryMark, .htmlComment, .logicalOr],
  [.automaticSemicolon, .ternaryMark, .htmlComment, .logicalOr],
  [.automaticSemicolon, .htmlComment], [.htmlComment, .jsxText],
  [.templateText, .htmlComment, .escapeSequence], [.htmlComment, .escapeSequence],
  [.htmlComment, .regexPattern]]

def contextSymbol : ContextToken → SymbolId
  | .automaticSemicolon => 130
  | .templateText => 131
  | .ternaryMark => 132
  | .htmlComment => 133
  | .logicalOr => 79
  | .escapeSequence => 108
  | .regexPattern => 113
  | .jsxText => 134
  | _ => errorSymbol

/-- Plain scripts with elements in angle brackets. -/
def grammar : Grammar where
  dialect := .plain
  symbols := symbolTable tokens nonterminals
  tokenCount := 135
  word := 1
  blank := Lexeme.blank
  modes := (modes.map (candidates tokens)).toArray
  keywords := keywordCandidates tokens keywords
  contextModes := contextModes.toArray
  contextSymbol := contextSymbol
  productions := productions.toArray
  automaton := table.automaton 135

end JavaScript

end CodeAtlas
