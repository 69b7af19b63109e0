import CodeAtlas.Grammar.Entry
import CodeAtlas.Grammar.Lexeme
import CodeAtlas.Grammar.TypeScriptTable

/-!
# The grammar of scripts with types

- `TypeScript.tokens`, `TypeScript.nonterminals`: the symbols, in the order of their numbers.
- `TypeScript.productions`: the names that productions give to their parts.
- `TypeScript.grammar`: the grammar.
-/

namespace CodeAtlas

namespace TypeScript

open Entry

def tokens : List Entry := [
  pattern .identifier Lexeme.identifier, pattern (.other "hash_bang_line") Lexeme.hashBang,
  fixed "export", fixed "*", fixed "default", fixed "type", fixed "import", fixed "=", fixed "as",
  fixed "namespace", fixed "\x7b", fixed ",", fixed "\x7d", fixed "typeof", fixed "from",
  fixed "with", fixed "assert", fixed "var", fixed "let", fixed "const", fixed "!", fixed "else",
  fixed "if", fixed "switch", fixed "for", fixed "(", fixed ";", fixed ")", fixed "await",
  fixed "in", fixed "of", fixed "while", fixed "do", fixed "try", fixed "break", fixed "continue",
  fixed "debugger", fixed "return", fixed "throw", fixed ":", fixed "case", fixed "catch",
  fixed "finally", fixed "yield", fixed "[", fixed "]", fixed ".", fixed "class", fixed "async",
  fixed "function", fixed "=>", fixed "?.", fixed "new", fixed "using", fixed "+=", fixed "-=",
  fixed "*=", fixed "/=", fixed "%=", fixed "^=", fixed "&=", fixed "|=", fixed ">>=",
  fixed ">>>=", fixed "<<=", fixed "**=", fixed "&&=", fixed "||=", fixed "??=", fixed "...",
  fixed "&&", fixed "||", fixed ">>", fixed ">>>", fixed "<<", fixed "&", fixed "^", fixed "|",
  fixed "+", fixed "-", fixed "/", fixed "%", fixed "**", fixed "<", fixed "<=", fixed "==",
  fixed "===", fixed "!=", fixed "!==", fixed ">=", fixed ">", fixed "??", fixed "instanceof",
  fixed "~", fixed "void", fixed "delete", fixed "++", fixed "--", fixed "\"", fixed "'",
  inside (.other "string_fragment") Lexeme.doubleQuoted 1,
  inside (.other "string_fragment") Lexeme.singleQuoted 1,
  inside (.other "escape_sequence") Lexeme.escapeSequence 0, pattern .comment Lexeme.comment,
  fixed "`", fixed "$\x7b", fixedInside "/" 1,
  inside (.other "regex_pattern") Lexeme.regexPattern (-1),
  inside (.other "regex_flags") Lexeme.regexFlags 0, pattern (.other "number") Lexeme.number,
  pattern .privatePropertyIdentifier Lexeme.privateIdentifier, fixed "target", fixed "meta",
  fixedAs (.other "this") "this", fixedAs (.other "super") "super",
  fixedAs (.other "true") "true", fixedAs (.other "false") "false",
  fixedAs (.other "null") "null", fixedAs (.other "undefined") "undefined", fixed "@",
  fixed "static", fixed "readonly", fixed "get", fixed "set", fixed "?", fixed "declare",
  fixed "public", fixed "private", fixed "protected", fixed "override", fixed "module",
  fixed "any", fixed "number", fixed "boolean", fixed "string", fixed "symbol", fixed "object",
  fixed "abstract", fixed "accessor", fixed "satisfies", fixed "require", fixed "extends",
  fixed "implements", fixed "global", fixed "interface", fixed "enum", fixed "-?:", fixed "+?:",
  fixed "?:", fixed "asserts", fixed "infer", fixed "is", fixed "keyof",
  fixedAs (.token "unique symbol") "unique", fixed "unknown", fixed "never", fixed "\x7b|",
  fixed "|\x7d", lookAheadHidden "_automatic_semicolon", lookAhead (.other "string_fragment"),
  lookAhead (.token "?"), lookAhead .htmlComment, lookAhead (.other "jsx_text"),
  lookAheadHidden "_function_signature_automatic_semicolon", lookAheadHidden "__error_recovery"]

def nonterminals : List SymbolInfo := [
  node (.other "program"), node (.other "export_statement"), node (.other "namespace_export"),
  node (.other "export_clause"), node (.other "export_specifier"), hidden "_module_export_name",
  hidden "declaration", node (.other "import"), node (.other "import_statement"),
  node (.other "import_clause"), hidden "_from_clause", node (.other "namespace_import"),
  node (.other "named_imports"), node (.other "import_specifier"),
  node (.other "import_attribute"), hidden "statement", node (.other "expression_statement"),
  node (.other "variable_declaration"), node (.other "lexical_declaration"),
  node .variableDeclarator, node (.other "statement_block"), node (.other "else_clause"),
  node (.other "if_statement"), node (.other "switch_statement"), node (.other "for_statement"),
  node (.other "for_in_statement"), hidden "_for_header", node (.other "while_statement"),
  node (.other "do_statement"), node (.other "try_statement"), node (.other "with_statement"),
  node (.other "break_statement"), node (.other "continue_statement"),
  node (.other "debugger_statement"), node (.other "return_statement"),
  node (.other "throw_statement"), node (.other "empty_statement"),
  node (.other "labeled_statement"), node (.other "switch_body"), node (.other "switch_case"),
  node (.other "switch_default"), node (.other "catch_clause"), node (.other "finally_clause"),
  node .parenthesizedExpression, hidden "expression", hidden "primary_expression",
  node (.other "yield_expression"), node (.other "object"), node (.other "object_pattern"),
  node (.other "assignment_pattern"), node (.other "object_assignment_pattern"),
  node (.other "array"), node (.other "array_pattern"), node (.other "nested_identifier"),
  node (.other "class"), node .classDeclaration, node (.other "class_heritage"),
  node .functionExpression, node .functionDeclaration, node .generatorFunction,
  node .generatorFunctionDeclaration, node .arrowFunction, hidden "_call_signature",
  hidden "_formal_parameter", node (.other "optional_chain"), node .callExpression,
  node (.other "new_expression"), node (.other "await_expression"), node .memberExpression,
  node (.other "subscript_expression"), node (.other "assignment_expression"),
  hidden "_augmented_assignment_lhs", node (.other "augmented_assignment_expression"),
  hidden "_initializer", hidden "_destructuring_pattern", node (.other "spread_element"),
  node (.other "ternary_expression"), node (.other "binary_expression"),
  node (.other "unary_expression"), node (.other "update_expression"),
  node (.other "sequence_expression"), node .string, node .templateString,
  node .templateSubstitution, node (.other "regex"), node (.other "meta_property"),
  node .arguments, node (.other "decorator"), node .memberExpression, node .callExpression,
  node .classBody, node (.other "formal_parameters"), node (.other "class_static_block"),
  hidden "pattern", node (.other "rest_pattern"), node .methodDefinition, node (.other "pair"),
  node (.other "pair_pattern"), hidden "_property_name", node (.other "computed_property_name"),
  node (.other "public_field_definition"), hidden "_import_identifier",
  node (.other "non_null_expression"), node (.other "method_signature"),
  node (.other "abstract_method_signature"), node (.other "function_signature"),
  node .parenthesizedExpression, node (.other "type_assertion"), node (.other "as_expression"),
  node (.other "satisfies_expression"), node (.other "instantiation_expression"),
  node (.other "import_require_clause"), node (.other "extends_clause"),
  hidden "_extends_clause_single", node (.other "implements_clause"),
  node (.other "ambient_declaration"), node .abstractClassDeclaration, node (.other "module"),
  node (.other "internal_module"), hidden "_module", node (.other "import_alias"),
  node (.other "nested_type_identifier"), node (.other "interface_declaration"),
  node (.other "extends_type_clause"), node (.other "enum_declaration"),
  node (.other "enum_body"), node (.other "enum_assignment"),
  node (.other "type_alias_declaration"), node (.other "accessibility_modifier"),
  node (.other "override_modifier"), node (.other "required_parameter"),
  node (.other "optional_parameter"), hidden "_parameter_name",
  node (.other "omitting_type_annotation"), node (.other "adding_type_annotation"),
  node (.other "opting_type_annotation"), node (.other "type_annotation"), node .memberExpression,
  node .callExpression, node (.other "asserts"), node (.other "asserts_annotation"),
  hidden "type", node (.other "required_parameter"), node (.other "optional_parameter"),
  node (.other "optional_type"), node (.other "rest_type"), hidden "_tuple_type_member",
  node (.other "constructor_type"), hidden "primary_type", node (.other "template_type"),
  node (.other "template_literal_type"), node (.other "infer_type"),
  node (.other "conditional_type"), node (.other "generic_type"), node (.other "type_predicate"),
  node (.other "type_predicate_annotation"), node .memberExpression,
  node (.other "subscript_expression"), node .callExpression,
  node (.other "instantiation_expression"), node (.other "type_query"),
  node (.other "index_type_query"), node (.other "lookup_type"),
  node (.other "mapped_type_clause"), node (.other "literal_type"),
  node (.other "unary_expression"), node (.other "existential_type"),
  node (.other "flow_maybe_type"), node (.other "parenthesized_type"),
  node (.other "predefined_type"), node (.other "type_arguments"), node (.other "object_type"),
  node (.other "call_signature"), node (.other "property_signature"),
  node (.other "type_parameters"), node (.other "type_parameter"), node (.other "default_type"),
  node (.other "constraint"), node (.other "construct_signature"),
  node (.other "index_signature"), node (.other "array_type"), node (.other "tuple_type"),
  node (.other "readonly_type"), node (.other "union_type"), node (.other "intersection_type"),
  node (.other "function_type"), hidden "program_repeat1", hidden "export_statement_repeat1",
  hidden "export_clause_repeat1", hidden "named_imports_repeat1",
  hidden "variable_declaration_repeat1", hidden "switch_body_repeat1", hidden "object_repeat1",
  hidden "object_pattern_repeat1", hidden "array_repeat1", hidden "array_pattern_repeat1",
  hidden "sequence_expression_repeat1", hidden "string_repeat1", hidden "string_repeat2",
  hidden "template_string_repeat1", hidden "class_body_repeat1",
  hidden "formal_parameters_repeat1", hidden "extends_clause_repeat1",
  hidden "implements_clause_repeat1", hidden "extends_type_clause_repeat1",
  hidden "enum_body_repeat1", hidden "template_literal_type_repeat1",
  hidden "object_type_repeat1", hidden "type_parameters_repeat1", hidden "tuple_type_repeat1"]

def productions : List Production := [
  ⟨[], []⟩, ⟨[some .identifier], []⟩, ⟨[], [(.name, [.own 0])]⟩, ⟨[], [(.name, [.inherited 1])]⟩,
  ⟨[some .propertyIdentifier], []⟩, ⟨[some (.other "type_identifier")], []⟩,
  ⟨[some (.other "type_identifier")], [(.name, [.own 0])]⟩, ⟨[some (.other "this_type")], []⟩,
  ⟨[], [(.object, [.inherited 0]), (.property, [.inherited 0])]⟩,
  ⟨[], [(.function, [.inherited 0]), (.arguments, [.inherited 0])]⟩,
  ⟨[], [(.function, [.own 0]), (.arguments, [.own 1])]⟩,
  ⟨[some (.other "statement_identifier")], []⟩,
  ⟨[none, some (.other "shorthand_property_identifier")], []⟩,
  ⟨[none, some (.other "shorthand_property_identifier_pattern")], []⟩,
  ⟨[none, some .identifier], []⟩, ⟨[], [(.object, [.own 1])]⟩,
  ⟨[], [(.name, [.own 0]), (.value, [.inherited 1])]⟩, ⟨[], [(.value, [.own 1])]⟩,
  ⟨[], [(.value, [.inherited 1])]⟩, ⟨[none, some (.other "statement_identifier")], []⟩,
  ⟨[none, some (.other "type_identifier")], [(.name, [.own 1])]⟩, ⟨[], [(.value, [.own 0])]⟩,
  ⟨[], [(.arguments, [.own 2])]⟩, ⟨[], [(.object, [.inherited 1]), (.property, [.inherited 1])]⟩,
  ⟨[], [(.object, [.inherited 1])]⟩,
  ⟨[], [(.function, [.inherited 1]), (.arguments, [.inherited 1])]⟩,
  ⟨[], [(.function, [.inherited 1])]⟩,
  ⟨[some (.other "type_identifier")], [(.name, [.own 0]), (.value, [.own 1])]⟩,
  ⟨[none, some (.other "type_identifier")], []⟩, ⟨[none, some (.token "unique symbol")], []⟩,
  ⟨[], [(.function, [.own 0]), (.arguments, [.own 1]), (.object, [.inherited 0]), (.property, [.inherited 0])]⟩,
  ⟨[none, some (.other "type_identifier"), some (.other "interface_body")], [(.name, [.own 1])]⟩,
  ⟨[], [(.name, [.own 1])]⟩,
  ⟨[none, none, some .propertyIdentifier], [(.object, [.own 0]), (.property, [.own 2])]⟩,
  ⟨[], [(.object, [.own 0]), (.property, [.own 2])]⟩,
  ⟨[none, none, some .propertyIdentifier], [(.object, [.own 0]), (.property, [.own 2]), (.optionalChain, [.own 1])]⟩,
  ⟨[], [(.object, [.own 0]), (.property, [.own 2]), (.optionalChain, [.own 1])]⟩,
  ⟨[], [(.function, [.own 0]), (.arguments, [.own 2])]⟩, ⟨[], [(.value, [.own 2])]⟩,
  ⟨[some .memberExpression, none, some .propertyIdentifier], [(.object, [.own 0]), (.property, [.own 2])]⟩,
  ⟨[some (.other "shorthand_property_identifier_pattern")], []⟩,
  ⟨[], [(.name, [.own 0]), (.value, [.inherited 2])]⟩, ⟨[], [(.name, [.own 2])]⟩,
  ⟨[], [(.value, [.inherited 2])]⟩, ⟨[], [(.value, [.inherited 1, .inherited 2])]⟩,
  ⟨[], [(.arguments, [.own 3])]⟩, ⟨[], [(.function, [.own 0])]⟩,
  ⟨[], [(.function, [.own 0]), (.object, [.inherited 0]), (.property, [.inherited 0])]⟩,
  ⟨[], [(.function, [.own 0]), (.arguments, [.own 1]), (.object, [.inherited 0])]⟩,
  ⟨[], [(.function, [.own 0]), (.object, [.inherited 0])]⟩,
  ⟨[none, some (.other "type_identifier")], [(.name, [.own 1]), (.value, [.own 2])]⟩,
  ⟨[none, none, some (.other "type_identifier")], [(.name, [.own 2])]⟩,
  ⟨[some (.other "type_identifier")], [(.name, [.own 0]), (.value, [.own 2])]⟩,
  ⟨[none, none, some .propertyIdentifier], [(.object, [.own 0, .inherited 0]), (.property, [.inherited 0, .own 2])]⟩,
  ⟨[], [(.object, [.own 0, .inherited 0]), (.property, [.inherited 0, .own 2])]⟩,
  ⟨[none, none, some .propertyIdentifier], [(.function, [.inherited 0]), (.arguments, [.inherited 0]), (.object, [.own 0]), (.property, [.own 2])]⟩,
  ⟨[], [(.function, [.inherited 0]), (.arguments, [.inherited 0]), (.object, [.own 0]), (.property, [.own 2])]⟩,
  ⟨[none, some (.other "type_identifier"), none, some (.other "interface_body")], [(.name, [.own 1])]⟩,
  ⟨[], [(.object, [.own 0])]⟩, ⟨[], [(.function, [.own 0]), (.arguments, [.own 3])]⟩,
  ⟨[none, some (.other "type_identifier")], [(.name, [.own 1]), (.value, [.own 3])]⟩,
  ⟨[some .identifier], [(.name, [.own 0])]⟩, ⟨[], [(.value, [.inherited 3])]⟩,
  ⟨[], [(.name, [.own 1]), (.value, [.inherited 2])]⟩,
  ⟨[], [(.value, [.inherited 0, .inherited 1])]⟩,
  ⟨[none, none, some .propertyIdentifier], [(.object, [.own 0, .inherited 0]), (.property, [.own 2])]⟩,
  ⟨[], [(.object, [.own 0, .inherited 0]), (.property, [.own 2])]⟩,
  ⟨[none, some (.other "type_identifier"), none, none, some (.other "interface_body")], [(.name, [.own 1])]⟩,
  ⟨[], [(.object, [.own 0]), (.optionalChain, [.own 1])]⟩, ⟨[], [(.value, [.own 3])]⟩,
  ⟨[none, none, none, some (.other "type_identifier")], [(.name, [.own 3])]⟩,
  ⟨[none, some (.other "type_identifier")], [(.name, [.own 1]), (.value, [.own 4])]⟩,
  ⟨[none, some .identifier], [(.name, [.own 1])]⟩,
  ⟨[], [(.name, [.own 2]), (.value, [.inherited 3])]⟩,
  ⟨[], [(.name, [.own 1]), (.value, [.inherited 3])]⟩, ⟨[], [(.name, [.own 3])]⟩,
  ⟨[], [(.name, [.own 0]), (.value, [.inherited 3])]⟩,
  ⟨[], [(.object, [.own 0, .inherited 0]), (.property, [.inherited 0])]⟩,
  ⟨[], [(.object, [.own 0, .inherited 0])]⟩,
  ⟨[], [(.function, [.inherited 0]), (.arguments, [.inherited 0]), (.object, [.own 0])]⟩,
  ⟨[], [(.name, [.own 1, .inherited 2])]⟩, ⟨[], [(.name, [.inherited 0, .inherited 1])]⟩,
  ⟨[], [(.name, [.inherited 2])]⟩, ⟨[], [(.name, [.own 2]), (.value, [.inherited 4])]⟩,
  ⟨[], [(.name, [.own 1]), (.value, [.inherited 4])]⟩,
  ⟨[], [(.name, [.own 3]), (.value, [.inherited 4])]⟩, ⟨[], [(.name, [.own 4])]⟩,
  ⟨[none, none, none, some .propertyIdentifier], []⟩,
  ⟨[], [(.name, [.own 2]), (.value, [.inherited 5])]⟩,
  ⟨[], [(.name, [.own 3]), (.value, [.inherited 5])]⟩,
  ⟨[], [(.name, [.own 4]), (.value, [.inherited 5])]⟩, ⟨[], [(.name, [.own 5])]⟩,
  ⟨[], [(.name, [.own 3]), (.value, [.inherited 6])]⟩,
  ⟨[none, none, some .identifier], [(.name, [.own 2])]⟩,
  ⟨[], [(.name, [.own 4]), (.value, [.inherited 6])]⟩,
  ⟨[], [(.name, [.own 5]), (.value, [.inherited 6])]⟩, ⟨[], [(.name, [.own 6])]⟩,
  ⟨[none, none, none, some .identifier], [(.name, [.own 3])]⟩,
  ⟨[], [(.name, [.own 4]), (.value, [.inherited 7])]⟩,
  ⟨[], [(.name, [.own 5]), (.value, [.inherited 7])]⟩,
  ⟨[], [(.name, [.own 6]), (.value, [.inherited 7])]⟩,
  ⟨[], [(.name, [.own 5]), (.value, [.inherited 8])]⟩,
  ⟨[], [(.name, [.own 6]), (.value, [.inherited 8])]⟩,
  ⟨[], [(.name, [.own 6]), (.value, [.inherited 9])]⟩]

def modes : List Nat := [
  0x601800002100cf9e5fffffffff98e1001c203917, 0x400000002100c31e4813d0400008e1001c203917,
  0x600000002100c31e5fffffffff98e1001c203912, 0x200000002100c31e4013d0400000e00014201812,
  0x2100c31e5fffffffff98e1001c203912, 0x400000002100c31e5fffff800010e1001c203913,
  0x600000002100c3180811d040000060000c003812, 0x400000002100c31e4813d0400018e1001c203912,
  0x400000000100c11800118040000020000c003812, 0x23061fffff800010e1001c203812,
  0x38000000000780000000000000010000000000, 0x1a8000000000000000000000000,
  0x1d0000000000000000000000000, 0x1100000000000000000000000000, 0x900000000000000000000000000]

def keywords : Nat :=
  0x1fc7ffffdeff0001a000000000671effe3dfc6e8

def contextModes : List (List ContextToken) := [
  [],
  [.automaticSemicolon, .templateText, .ternaryMark, .htmlComment, .logicalOr, .escapeSequence, .jsxText, .signatureSemicolon, .errorRecovery],
  [.htmlComment], [.ternaryMark, .htmlComment, .logicalOr],
  [.automaticSemicolon, .ternaryMark, .htmlComment, .logicalOr],
  [.automaticSemicolon, .htmlComment], [.automaticSemicolon, .htmlComment, .signatureSemicolon],
  [.templateText, .htmlComment, .escapeSequence], [.templateText, .htmlComment],
  [.htmlComment, .escapeSequence], [.htmlComment, .regexPattern]]

def contextSymbol : ContextToken → SymbolId
  | .automaticSemicolon => 159
  | .templateText => 160
  | .ternaryMark => 161
  | .htmlComment => 162
  | .logicalOr => 72
  | .escapeSequence => 103
  | .regexPattern => 108
  | .jsxText => 163
  | .signatureSemicolon => 164
  | .errorRecovery => 165

/-- Scripts with types, where angle brackets hold types. -/
def grammar : Grammar where
  dialect := .typed
  symbols := symbolTable tokens nonterminals
  tokenCount := 166
  word := 1
  blank := Lexeme.blank
  modes := (modes.map (candidates tokens)).toArray
  keywords := keywordCandidates tokens keywords
  contextModes := contextModes.toArray
  contextSymbol := contextSymbol
  productions := productions.toArray
  automaton := table.automaton 166

end TypeScript

end CodeAtlas
