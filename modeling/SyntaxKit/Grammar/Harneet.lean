import SyntaxKit.Grammar.Basic

/-!
# The grammar of Harneet

The rules that the tables of the Harneet language have been built from, without their precedences:
what the nodes of each rule are made of, and which texts the tokens stand for.  A rule that is a
single token counts among the tokens.
-/

namespace SyntaxKit

namespace Harneet

open Grammar

section Rules

open Rule

/-- The declarations. -/
def declarations : List (String × Rule) := [
  ("package_declaration", seqs [lit "package", field "name" (ref "identifier")]),
  ("import_declaration", seqs [lit "import", optional (lit "go"),
    separated (lit ",") (ref "import_spec")]),
  ("import_spec", seqs [field "path" (choices [ref "identifier", ref "string"]),
    optional (seqs [lit "as", field "alias" (ref "identifier")])]),
  ("variable_declaration", seqs [lit "var", field "name" (ref "identifier"),
    optional (field "type" (ref "_type")),
    optional (seqs [lit "=", field "value" (ref "expression")])]),
  ("const_declaration", seqs [lit "const", field "name" (ref "identifier"),
    optional (field "type" (ref "_type")), lit "=", field "value" (ref "expression")]),
  ("type_declaration", seqs [lit "type", field "name" (ref "identifier"),
    choices [ref "struct_type", ref "interface_type", ref "_type"]]),
  ("enum_declaration", seqs [lit "enum", field "name" (ref "identifier"), lit "\x7b",
    optional (seqs [separated (lit ",") (ref "enum_variant"), optional (lit ",")]), lit "\x7d"]),
  ("enum_variant", seqs [field "name" (ref "identifier"),
    optional (seqs [lit "\x7b", optional (separated (lit ";") (ref "struct_field")), lit "\x7d"])]),
  ("function_declaration", seqs [lit "function", field "name" (ref "identifier"),
    field "parameters" (ref "parameter_list"), optional (field "return_type" (ref "_type")),
    field "body" (ref "block")]),
  ("parameter_list", seqs [lit "(", optional (separated (lit ",") (ref "parameter")), lit ")"]),
  ("parameter", seqs [field "name" (ref "identifier"), optional (field "type" (ref "_type"))])]

/-- The statements and the program that they make up. -/
def statements : List (String × Rule) := [
  ("source_file", repeated (ref "_statement")),
  ("block", seqs [lit "\x7b", repeated (ref "_statement"), lit "\x7d"]),
  ("return_statement", seqs [lit "return", optional (ref "expression")]),
  ("defer_statement", seqs [lit "defer", ref "expression"]),
  ("if_statement", seqs [lit "if", field "condition" (ref "expression"),
    field "consequence" (ref "block"),
    optional (seqs [lit "else", field "alternative" (choices [ref "if_statement", ref "block"])])]),
  ("for_statement", seqs [lit "for", optional (field "condition" (ref "expression")),
    field "body" (ref "block")]),
  ("for_in_statement", seqs [lit "for", field "left" (ref "identifier"),
    optional (seqs [lit ",", field "left2" (ref "identifier")]), lit "in",
    field "right" (ref "expression"), field "body" (ref "block")]),
  ("switch_statement", seqs [lit "switch", optional (field "value" (ref "expression")), lit "\x7b",
    repeated (ref "case_clause"), optional (ref "default_clause"), lit "\x7d"]),
  ("case_clause", seqs [lit "case", separated (lit ",") (ref "expression"), ref "block"]),
  ("default_clause", seqs [lit "default", ref "block"]),
  ("assignment_statement", seqs [field "left" (choices [ref "identifier", ref "blank_identifier",
      ref "index_expression", ref "member_expression"]), field "operator" (choices [lit "=",
      lit ":=", lit "+=", lit "-=", lit "*=", lit "/=", lit "%="]),
    field "right" (ref "expression")]),
  ("expression_statement", ref "expression")]

/-- The types. -/
def types : List (String × Rule) := [
  ("simple_type", choices [lit "int", lit "int8", lit "int16", lit "int32", lit "int64", lit "uint",
    lit "uint8", lit "uint16", lit "uint32", lit "uint64", lit "uintptr", lit "byte", lit "float32",
    lit "float64", lit "decimal", lit "string", lit "bool", lit "rune", lit "error", lit "any"]),
  ("array_type", seqs [lit "[", lit "]", ref "_type"]),
  ("map_type", seqs [lit "map", lit "[", ref "_type", lit "]", ref "_type"]),
  ("function_type", seqs [lit "function", lit "(", optional (separated (lit ",") (ref "_type")),
    lit ")", optional (ref "_type")]),
  ("tuple_type", seqs [lit "(", optional (seqs [ref "_type",
      choices [seqs [many (seqs [lit ",", ref "_type"]), optional (lit ",")], lit ","]]), lit ")"]),
  ("struct_type", seqs [lit "struct", lit "\x7b",
    optional (separated (choices [lit ";", item .separator]) (ref "struct_field")), lit "\x7d"]),
  ("struct_field", seqs [field "name" (ref "identifier"), field "type" (ref "_type")]),
  ("interface_type", seqs [lit "interface", lit "\x7b",
    optional (separated (choices [lit ";", item .separator]) (ref "interface_method")),
    lit "\x7d"]),
  ("interface_method", seqs [field "name" (ref "identifier"),
    field "parameters" (ref "parameter_list"), optional (field "return_type" (ref "_type"))])]

/-- The expressions. -/
def expressions : List (String × Rule) := [
  ("expression", choices [ref "_primary_expression", ref "unary_expression",
    ref "binary_expression", ref "pipe_expression", ref "call_expression", ref "member_expression",
    ref "index_expression", ref "match_expression", ref "arrow_function", ref "anonymous_function",
    ref "do_expression"]),
  ("do_expression", seqs [lit "do", field "task" (ref "expression")]),
  ("pipe_expression", seqs [ref "expression", lit "|>", ref "expression"]),
  ("literal", choices [ref "number", ref "float", ref "string", ref "rune", ref "boolean",
    ref "none"]),
  ("boolean", choices [lit "true", lit "false"]),
  ("parenthesized_expression", seqs [lit "(", ref "expression", lit ")"]),
  ("tuple_literal", seqs [lit "(", optional (seqs [ref "expression",
      choices [seqs [many (seqs [lit ",", ref "expression"]), optional (lit ",")], lit ","]]),
    lit ")"]),
  ("unary_expression", seqs [field "operator" (choices [lit "-", lit "not", lit "!"]),
    field "operand" (ref "expression")]),
  ("binary_expression", choices [seqs [ref "expression", lit "or", ref "expression"],
    seqs [ref "expression", lit "and", ref "expression"], seqs [ref "expression",
      choices [lit "==", lit "!=", lit "<", lit ">", lit "<=", lit ">="], ref "expression"],
    seqs [ref "expression", choices [lit "|", lit "^"], ref "expression"],
    seqs [ref "expression", lit "&", ref "expression"],
    seqs [ref "expression", choices [lit "<<", lit ">>"], ref "expression"],
    seqs [ref "expression", choices [lit "+", lit "-"], ref "expression"],
    seqs [ref "expression", choices [lit "*", lit "/", lit "%"], ref "expression"],
    seqs [ref "expression", lit "**", ref "expression"]]),
  ("call_expression", seqs [field "function" (ref "expression"),
    field "arguments" (ref "argument_list")]),
  ("argument_list", seqs [lit "(", optional (separated (lit ",") (ref "expression")), lit ")"]),
  ("member_expression", seqs [field "object" (ref "expression"), lit ".",
    field "property" (ref "identifier")]),
  ("index_expression", seqs [field "object" (ref "expression"), lit "[",
    field "index" (ref "expression"), lit "]"]),
  ("array_literal", seqs [lit "[",
    optional (seqs [separated (lit ",") (ref "expression"), optional (lit ",")]), lit "]"]),
  ("map_literal", seqs [lit "\x7b",
    optional (seqs [separated (lit ",") (ref "map_entry"), optional (lit ",")]), lit "\x7d"]),
  ("map_entry", seqs [field "key" (ref "expression"), lit ":", field "value" (ref "expression")]),
  ("struct_literal", seqs [field "type" (ref "identifier"), lit "\x7b",
    optional (choices [seqs [separated (lit ",") (ref "struct_field_value"), optional (lit ",")],
      seqs [separated (lit ",") (ref "expression"), optional (lit ",")]]), lit "\x7d"]),
  ("struct_field_value", seqs [field "name" (ref "identifier"), lit ":",
    field "value" (ref "expression")]),
  ("match_expression", seqs [lit "match", optional (field "value" (ref "expression")), lit "\x7b",
    repeated (ref "match_arm"), lit "\x7d"]),
  ("match_arm", seqs [field "pattern" (ref "pattern"),
    optional (seqs [lit "if", field "guard" (ref "expression")]), lit "=>",
    field "body" (choices [ref "expression", ref "block"]), optional (lit ",")]),
  ("pattern", choices [ref "literal", ref "identifier", ref "blank_identifier", ref "array_pattern",
    ref "receive_pattern"]),
  ("receive_pattern", seqs [lit "receive", lit "(", field "channel" (ref "expression"), lit ")",
    lit "as", field "binding" (choices [ref "identifier", ref "blank_identifier"])]),
  ("array_pattern", seqs [lit "[", optional (separated (lit ",") (ref "pattern")), lit "]"]),
  ("arrow_function", seqs [field "parameters" (ref "identifier"), lit "=>",
    field "body" (choices [ref "expression", ref "block"])]),
  ("anonymous_function", seqs [lit "function", field "parameters" (ref "parameter_list"),
    optional (field "return_type" (ref "_type")), field "body" (ref "block")])]

/-- The rules whose nodes do not show. -/
def hiddenRules : List (String × Rule) := [
  ("_statement", choices [ref "package_declaration", ref "import_declaration",
    ref "variable_declaration", ref "const_declaration", ref "type_declaration",
    ref "enum_declaration", ref "function_declaration", ref "return_statement",
    ref "defer_statement", ref "if_statement", ref "for_statement", ref "for_in_statement",
    ref "switch_statement", ref "break_statement", ref "continue_statement", ref "block",
    ref "assignment_statement", ref "expression_statement"]),
  ("_type", choices [ref "simple_type", ref "array_type", ref "map_type", ref "function_type",
    ref "tuple_type", ref "identifier"]),
  ("_primary_expression", choices [ref "literal", ref "identifier", ref "blank_identifier",
    ref "parenthesized_expression", ref "tuple_literal", ref "array_literal", ref "map_literal",
    ref "struct_literal"])]

end Rules

section Tokens

open Pattern

/-- A blank character. -/
def space : Pattern := oneOf ['\t', '\n', '\x0b', '\x0c', '\x0d', ' ']

/-- A decimal digit. -/
def digit : Pattern := within [('0', '9')]

/-- The digits of a decimal number, without needless zeros in front. -/
def decimalDigits : Pattern := choice (oneOf ['0']) (seq (within [('1', '9')]) (repeated digit))

/-- The exponent of a number. -/
def exponent : Pattern := seqs [oneOf ['e', 'E'], optional (oneOf ['+', '-']), many digit]

/-- A character behind a backslash. -/
def escape : Pattern := seq (oneOf ['\\']) (noneOf ['\n'])

/-- What the text of a number may be. -/
def number : Pattern := choices [
  seqs [oneOf ['0'], oneOf ['x', 'X'], many (within [('0', '9'), ('a', 'f'), ('A', 'F')])],
  seqs [oneOf ['0'], oneOf ['o', 'O'], many (within [('0', '7')])],
  seqs [oneOf ['0'], oneOf ['b', 'B'], many (oneOf ['0', '1'])],
  seq (optional (oneOf ['-'])) decimalDigits]

/-- What the text of a number with a fraction or an exponent may be. -/
def float : Pattern := seq (optional (oneOf ['-'])) (choices [
  seqs [decimalDigits, oneOf ['.'], many digit],
  seq decimalDigits exponent,
  seqs [decimalDigits, oneOf ['.'], many digit, exponent]])

/-- What the text of a string may be. -/
def string : Pattern := choice
  (seqs [oneOf ['"'], repeated (choice (noneOf ['"', '\\', '\n']) escape), oneOf ['"']])
  (seqs [oneOf ['`'], repeated (choice (noneOf ['`', '\\']) escape), oneOf ['`']])

/-- What the text of a rune may be. -/
def rune : Pattern :=
  seqs [oneOf ['\''], choice (noneOf ['\'', '\\']) escape, oneOf ['\'']]

/-- What the text of a comment may be. -/
def comment : Pattern := choice
  (seqs [text ['/', '/'], repeated (noneOf ['\n'])])
  (seqs [text ['/', '*'], repeated (noneOf ['*']), many (oneOf ['*']),
    repeated (seqs [noneOf ['/', '*'], repeated (noneOf ['*']), many (oneOf ['*'])]),
    oneOf ['/']])

/-- The tokens that have a name. -/
def tokens : List (String × Pattern) := [
  ("identifier", seq (within [('A', 'Z'), ('a', 'z'), ('_', '_')])
    (repeated (within [('A', 'Z'), ('a', 'z'), ('0', '9'), ('_', '_')]))),
  ("blank_identifier", text ['_']),
  ("number", number),
  ("float", float),
  ("string", string),
  ("rune", rune),
  ("comment", comment),
  ("break_statement", text "break".toList),
  ("continue_statement", text "continue".toList),
  ("none", text "None".toList)]

end Tokens

/-- The grammar of Harneet. -/
def grammar : Grammar where
  start := "source_file"
  rules := statements ++ declarations ++ types ++ expressions
  hidden := hiddenRules
  tokens := tokens
  extras := [space, comment]

end Harneet

end SyntaxKit
