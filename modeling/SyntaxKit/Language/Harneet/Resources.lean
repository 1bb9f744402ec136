/-!
# Resources of the Harneet language

What goes with the grammar: its name, the extension of its files, the queries for highlighting and
for scopes, and the C header under which the compiled grammar is known to editors.
-/

namespace SyntaxKit.Harneet

/-- The name of the grammar. -/
def grammarName : String := "harneet"

/-- The extension of source files. -/
def defaultExtension : String := "ha"

/-- The text of some lines. -/
def unlines (lines : List String) : String := String.join (lines.map (· ++ "\n"))

/-- The query that says how a text is coloured. -/
def highlightsQuery : String := unlines [
  "; Comments and literals",
  "",
  "(comment) @comment",
  "(string) @string",
  "(rune) @constant.character",
  "(number) @constant.numeric.integer",
  "(float) @constant.numeric.float",
  "(boolean) @constant.builtin.boolean",
  "(none) @constant.builtin",
  "(blank_identifier) @variable.builtin",
  "",
  "; Declarations",
  "",
  "(package_declaration name: (identifier) @namespace)",
  "(import_spec path: (identifier) @namespace)",
  "(import_spec alias: (identifier) @namespace)",
  "",
  "(function_declaration name: (identifier) @function)",
  "(interface_method name: (identifier) @function.method)",
  "",
  "(type_declaration name: (identifier) @type)",
  "(enum_declaration name: (identifier) @type)",
  "(enum_variant name: (identifier) @type.enum.variant)",
  "(struct_literal type: (identifier) @type)",
  "",
  "(const_declaration name: (identifier) @constant)",
  "",
  "(parameter name: (identifier) @variable.parameter)",
  "(parameter type: (identifier) @type)",
  "(variable_declaration type: (identifier) @type)",
  "(arrow_function parameters: (identifier) @variable.parameter)",
  "",
  "(struct_field name: (identifier) @variable.other.member)",
  "(struct_field type: (identifier) @type)",
  "(struct_field_value name: (identifier) @variable.other.member)",
  "(member_expression property: (identifier) @variable.other.member)",
  "",
  "(simple_type) @type.builtin",
  "",
  "; Calls",
  "",
  "(call_expression",
  "  function: (expression (identifier) @function))",
  "(call_expression",
  "  function: (expression",
  "    (member_expression property: (identifier) @function.method)))",
  "",
  "; Keywords",
  "",
  "[",
  "  \"package\"",
  "  \"import\"",
  "  \"go\"",
  "  \"as\"",
  "] @keyword.control.import",
  "",
  "[",
  "  \"var\"",
  "  \"const\"",
  "  \"type\"",
  "  \"enum\"",
  "  \"struct\"",
  "  \"interface\"",
  "  \"map\"",
  "] @keyword.storage",
  "",
  "\"function\" @keyword.function",
  "",
  "[",
  "  \"return\"",
  "  \"defer\"",
  "  \"do\"",
  "] @keyword.control.return",
  "",
  "[",
  "  \"if\"",
  "  \"else\"",
  "  \"switch\"",
  "  \"case\"",
  "  \"default\"",
  "  \"match\"",
  "] @keyword.control.conditional",
  "",
  "[",
  "  \"for\"",
  "  \"in\"",
  "] @keyword.control.repeat",
  "",
  "\"receive\" @keyword",
  "",
  "(break_statement) @keyword.control",
  "(continue_statement) @keyword.control",
  "",
  "[",
  "  \"not\"",
  "  \"and\"",
  "  \"or\"",
  "] @keyword.operator",
  "",
  "; Operators and punctuation",
  "",
  "[",
  "  \"=\"",
  "  \":=\"",
  "  \"+=\"",
  "  \"-=\"",
  "  \"*=\"",
  "  \"/=\"",
  "  \"%=\"",
  "  \"|>\"",
  "  \"==\"",
  "  \"!=\"",
  "  \"<\"",
  "  \">\"",
  "  \"<=\"",
  "  \">=\"",
  "  \"|\"",
  "  \"^\"",
  "  \"&\"",
  "  \"<<\"",
  "  \">>\"",
  "  \"+\"",
  "  \"-\"",
  "  \"*\"",
  "  \"/\"",
  "  \"%\"",
  "  \"**\"",
  "  \"!\"",
  "  \"=>\"",
  "] @operator",
  "",
  "[",
  "  \"(\"",
  "  \")\"",
  "  \"[\"",
  "  \"]\"",
  "  \"\x7b\"",
  "  \"\x7d\"",
  "] @punctuation.bracket",
  "",
  "[",
  "  \",\"",
  "  \";\"",
  "  \".\"",
  "  \":\"",
  "] @punctuation.delimiter",
  "",
  "(identifier) @variable"]

/-- The query that finds scopes, definitions and references. -/
def localsQuery : String := unlines [
  "; Scopes",
  "",
  "(function_declaration) @local.scope",
  "(anonymous_function) @local.scope",
  "(arrow_function) @local.scope",
  "(block) @local.scope",
  "",
  "; Definitions",
  "",
  "(parameter name: (identifier) @local.definition)",
  "(arrow_function parameters: (identifier) @local.definition)",
  "(variable_declaration name: (identifier) @local.definition)",
  "(const_declaration name: (identifier) @local.definition)",
  "(for_in_statement left: (identifier) @local.definition)",
  "(for_in_statement left2: (identifier) @local.definition)",
  "(receive_pattern binding: (identifier) @local.definition)",
  "",
  "; References",
  "",
  "(identifier) @local.reference"]

/-- The C header of the compiled grammar. -/
def cHeader : String := unlines [
  "#ifndef TREE_SITTER_HARNEET_H_",
  "#define TREE_SITTER_HARNEET_H_",
  "",
  "typedef struct TSLanguage TSLanguage;",
  "",
  "#ifdef __cplusplus",
  "extern \"C\" \x7b",
  "#endif",
  "",
  "const TSLanguage *tree_sitter_harneet(void);",
  "",
  "#ifdef __cplusplus",
  "\x7d",
  "#endif",
  "",
  "#endif // TREE_SITTER_HARNEET_H_"]

end SyntaxKit.Harneet
