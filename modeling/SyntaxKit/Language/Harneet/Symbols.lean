import SyntaxKit.Language.Basic

/-!
# The symbols of the Harneet grammar

The vocabulary of the parse automaton: its symbols in numeric order, the words that are keywords
only where the automaton can act on them, the field names, and for every production that labels
children the fields of those children.  Symbol `0` is the end of the text, symbol `1` the
identifier token; the tokens come first and the nonterminals of the grammar after them.
-/

namespace SyntaxKit.Harneet

/-- The symbols in numeric order: the end of the text, the tokens, then the nonterminals. -/
def symbols : Array SymbolInfo := #[
  ⟨"end", .hidden⟩, ⟨"identifier", .named⟩, ⟨"blank_identifier", .named⟩, ⟨"number", .named⟩,
  ⟨"float", .named⟩, ⟨"string", .named⟩, ⟨"rune", .named⟩, ⟨"comment", .named⟩,
  ⟨"package", .literal⟩, ⟨"import", .literal⟩, ⟨"go", .literal⟩, ⟨",", .literal⟩,
  ⟨"as", .literal⟩, ⟨"var", .literal⟩, ⟨"=", .literal⟩, ⟨"const", .literal⟩, ⟨"type", .literal⟩,
  ⟨"enum", .literal⟩, ⟨"\x7b", .literal⟩, ⟨"\x7d", .literal⟩, ⟨";", .literal⟩,
  ⟨"function", .literal⟩, ⟨"(", .literal⟩, ⟨")", .literal⟩, ⟨"return", .literal⟩,
  ⟨"defer", .literal⟩, ⟨"if", .literal⟩, ⟨"else", .literal⟩, ⟨"for", .literal⟩, ⟨"in", .literal⟩,
  ⟨"switch", .literal⟩, ⟨"case", .literal⟩, ⟨"default", .literal⟩, ⟨"break_statement", .named⟩,
  ⟨"continue_statement", .named⟩, ⟨":=", .literal⟩, ⟨"+=", .literal⟩, ⟨"-=", .literal⟩,
  ⟨"*=", .literal⟩, ⟨"/=", .literal⟩, ⟨"%=", .literal⟩, ⟨"int", .literal⟩, ⟨"int8", .literal⟩,
  ⟨"int16", .literal⟩, ⟨"int32", .literal⟩, ⟨"int64", .literal⟩, ⟨"uint", .literal⟩,
  ⟨"uint8", .literal⟩, ⟨"uint16", .literal⟩, ⟨"uint32", .literal⟩, ⟨"uint64", .literal⟩,
  ⟨"uintptr", .literal⟩, ⟨"byte", .literal⟩, ⟨"float32", .literal⟩, ⟨"float64", .literal⟩,
  ⟨"decimal", .literal⟩, ⟨"string", .literal⟩, ⟨"bool", .literal⟩, ⟨"rune", .literal⟩,
  ⟨"error", .literal⟩, ⟨"any", .literal⟩, ⟨"[", .literal⟩, ⟨"]", .literal⟩, ⟨"map", .literal⟩,
  ⟨"struct", .literal⟩, ⟨"struct_type_token1", .auxiliary⟩, ⟨"interface", .literal⟩,
  ⟨"do", .literal⟩, ⟨"|>", .literal⟩, ⟨"true", .literal⟩, ⟨"false", .literal⟩, ⟨"none", .named⟩,
  ⟨"-", .literal⟩, ⟨"not", .literal⟩, ⟨"!", .literal⟩, ⟨"or", .literal⟩, ⟨"and", .literal⟩,
  ⟨"==", .literal⟩, ⟨"!=", .literal⟩, ⟨"<", .literal⟩, ⟨">", .literal⟩, ⟨"<=", .literal⟩,
  ⟨">=", .literal⟩, ⟨"|", .literal⟩, ⟨"^", .literal⟩, ⟨"&", .literal⟩, ⟨"<<", .literal⟩,
  ⟨">>", .literal⟩, ⟨"+", .literal⟩, ⟨"*", .literal⟩, ⟨"/", .literal⟩, ⟨"%", .literal⟩,
  ⟨"**", .literal⟩, ⟨".", .literal⟩, ⟨":", .literal⟩, ⟨"match", .literal⟩, ⟨"=>", .literal⟩,
  ⟨"receive", .literal⟩, ⟨"source_file", .named⟩, ⟨"_statement", .hidden⟩,
  ⟨"package_declaration", .named⟩, ⟨"import_declaration", .named⟩, ⟨"import_spec", .named⟩,
  ⟨"variable_declaration", .named⟩, ⟨"const_declaration", .named⟩, ⟨"type_declaration", .named⟩,
  ⟨"enum_declaration", .named⟩, ⟨"enum_variant", .named⟩, ⟨"function_declaration", .named⟩,
  ⟨"parameter_list", .named⟩, ⟨"parameter", .named⟩, ⟨"block", .named⟩,
  ⟨"return_statement", .named⟩, ⟨"defer_statement", .named⟩, ⟨"if_statement", .named⟩,
  ⟨"for_statement", .named⟩, ⟨"for_in_statement", .named⟩, ⟨"switch_statement", .named⟩,
  ⟨"case_clause", .named⟩, ⟨"default_clause", .named⟩, ⟨"assignment_statement", .named⟩,
  ⟨"expression_statement", .named⟩, ⟨"_type", .hidden⟩, ⟨"simple_type", .named⟩,
  ⟨"array_type", .named⟩, ⟨"map_type", .named⟩, ⟨"function_type", .named⟩,
  ⟨"tuple_type", .named⟩, ⟨"struct_type", .named⟩, ⟨"struct_field", .named⟩,
  ⟨"interface_type", .named⟩, ⟨"interface_method", .named⟩, ⟨"expression", .named⟩,
  ⟨"do_expression", .named⟩, ⟨"pipe_expression", .named⟩, ⟨"_primary_expression", .hidden⟩,
  ⟨"literal", .named⟩, ⟨"boolean", .named⟩, ⟨"parenthesized_expression", .named⟩,
  ⟨"tuple_literal", .named⟩, ⟨"unary_expression", .named⟩, ⟨"binary_expression", .named⟩,
  ⟨"call_expression", .named⟩, ⟨"argument_list", .named⟩, ⟨"member_expression", .named⟩,
  ⟨"index_expression", .named⟩, ⟨"array_literal", .named⟩, ⟨"map_literal", .named⟩,
  ⟨"map_entry", .named⟩, ⟨"struct_literal", .named⟩, ⟨"struct_field_value", .named⟩,
  ⟨"match_expression", .named⟩, ⟨"match_arm", .named⟩, ⟨"pattern", .named⟩,
  ⟨"receive_pattern", .named⟩, ⟨"array_pattern", .named⟩, ⟨"arrow_function", .named⟩,
  ⟨"anonymous_function", .named⟩, ⟨"source_file_repeat1", .auxiliary⟩,
  ⟨"import_declaration_repeat1", .auxiliary⟩, ⟨"enum_declaration_repeat1", .auxiliary⟩,
  ⟨"enum_variant_repeat1", .auxiliary⟩, ⟨"parameter_list_repeat1", .auxiliary⟩,
  ⟨"switch_statement_repeat1", .auxiliary⟩, ⟨"case_clause_repeat1", .auxiliary⟩,
  ⟨"function_type_repeat1", .auxiliary⟩, ⟨"struct_type_repeat1", .auxiliary⟩,
  ⟨"interface_type_repeat1", .auxiliary⟩, ⟨"map_literal_repeat1", .auxiliary⟩,
  ⟨"struct_literal_repeat1", .auxiliary⟩, ⟨"match_expression_repeat1", .auxiliary⟩,
  ⟨"array_pattern_repeat1", .auxiliary⟩]

/-- How many of the symbols are tokens, the end of the text among them. -/
def tokenCount : Nat := 98

/-- The token that every keyword also matches. -/
def wordToken : Nat := 1

/-- The keywords: words of the shape of an identifier that the automaton may treat as tokens. -/
def keywords : List (List Char × Nat) := [
  (['_'], 2), (['p', 'a', 'c', 'k', 'a', 'g', 'e'], 8), (['i', 'm', 'p', 'o', 'r', 't'], 9),
  (['g', 'o'], 10), (['a', 's'], 12), (['v', 'a', 'r'], 13), (['c', 'o', 'n', 's', 't'], 15),
  (['t', 'y', 'p', 'e'], 16), (['e', 'n', 'u', 'm'], 17),
  (['f', 'u', 'n', 'c', 't', 'i', 'o', 'n'], 21), (['r', 'e', 't', 'u', 'r', 'n'], 24),
  (['d', 'e', 'f', 'e', 'r'], 25), (['i', 'f'], 26), (['e', 'l', 's', 'e'], 27),
  (['f', 'o', 'r'], 28), (['i', 'n'], 29), (['s', 'w', 'i', 't', 'c', 'h'], 30),
  (['c', 'a', 's', 'e'], 31), (['d', 'e', 'f', 'a', 'u', 'l', 't'], 32),
  (['b', 'r', 'e', 'a', 'k'], 33), (['c', 'o', 'n', 't', 'i', 'n', 'u', 'e'], 34),
  (['i', 'n', 't'], 41), (['i', 'n', 't', '8'], 42), (['i', 'n', 't', '1', '6'], 43),
  (['i', 'n', 't', '3', '2'], 44), (['i', 'n', 't', '6', '4'], 45), (['u', 'i', 'n', 't'], 46),
  (['u', 'i', 'n', 't', '8'], 47), (['u', 'i', 'n', 't', '1', '6'], 48),
  (['u', 'i', 'n', 't', '3', '2'], 49), (['u', 'i', 'n', 't', '6', '4'], 50),
  (['u', 'i', 'n', 't', 'p', 't', 'r'], 51), (['b', 'y', 't', 'e'], 52),
  (['f', 'l', 'o', 'a', 't', '3', '2'], 53), (['f', 'l', 'o', 'a', 't', '6', '4'], 54),
  (['d', 'e', 'c', 'i', 'm', 'a', 'l'], 55), (['s', 't', 'r', 'i', 'n', 'g'], 56),
  (['b', 'o', 'o', 'l'], 57), (['r', 'u', 'n', 'e'], 58), (['e', 'r', 'r', 'o', 'r'], 59),
  (['a', 'n', 'y'], 60), (['m', 'a', 'p'], 63), (['s', 't', 'r', 'u', 'c', 't'], 64),
  (['i', 'n', 't', 'e', 'r', 'f', 'a', 'c', 'e'], 66), (['d', 'o'], 67),
  (['t', 'r', 'u', 'e'], 69), (['f', 'a', 'l', 's', 'e'], 70), (['N', 'o', 'n', 'e'], 71),
  (['n', 'o', 't'], 73), (['o', 'r'], 75), (['a', 'n', 'd'], 76),
  (['m', 'a', 't', 'c', 'h'], 95), (['r', 'e', 'c', 'e', 'i', 'v', 'e'], 97)]

/-- The field names in alphabetical order; a field is known by its position here. -/
def fields : Array String := #[
  "alias", "alternative", "arguments", "binding", "body", "channel", "condition", "consequence",
  "function", "guard", "index", "key", "left", "left2", "name", "object", "operand", "operator",
  "parameters", "path", "pattern", "property", "return_type", "right", "task", "type", "value"]

/-- For each production number, which children (counted without extras) carry which field. -/
def productions : Array (List (Nat × Nat)) := #[
  [], [(1, 14)], [(0, 19)], [(1, 4)], [(1, 24)], [(1, 16), (0, 17)], [(1, 2), (0, 8)],
  [(0, 12), (1, 17), (2, 23)], [(0, 25)], [(2, 4), (0, 18)], [(1, 14), (2, 25)], [(0, 14)],
  [(2, 4), (1, 18)], [(1, 6), (2, 7)], [(2, 4), (1, 6)], [(0, 15), (2, 21)], [(2, 0), (0, 19)],
  [(1, 14), (3, 26)], [(0, 11), (2, 26)], [(3, 4), (1, 14), (2, 18)], [(0, 14), (1, 25)],
  [(3, 4), (1, 18), (2, 22)], [(1, 26)], [(2, 10), (0, 15)], [(0, 14), (2, 26)],
  [(1, 14), (2, 25), (4, 26)], [(4, 4), (1, 14), (2, 18), (3, 22)], [(4, 1), (1, 6), (2, 7)],
  [(4, 4), (1, 12), (3, 23)], [(2, 4), (0, 20)], [(0, 14), (1, 18)], [(0, 14), (1, 18), (2, 22)],
  [(6, 4), (1, 12), (3, 13), (5, 23)], [(4, 4), (2, 9), (0, 20)], [(5, 3), (2, 5)]]

end SyntaxKit.Harneet
