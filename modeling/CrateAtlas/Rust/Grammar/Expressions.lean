import CrateAtlas.Rust.Grammar.Forms

/-!
# Expressions, patterns and literals

The rules for what stands in function bodies, constants and attributes.
-/

set_option autoImplicit false

namespace CrateAtlas.Rust

open Grammar Rule

/-- An expression. -/
def expression : R := the "_expression"

/-- A pattern. -/
def pattern : R := the "_pattern"

/-- An optional label before a loop or a block. -/
def optLabel : R := opt (all [the "label", ":"])

/-- Attributes, on the outside or the inside, before the arm of a match. -/
def armAttributes : R := many (oneOf ["attribute_item", "inner_attribute_item"])

/-- The rules for operators, calls and names in expressions. -/
def operatorRules : List (String × R) := [
  ("_expression_except_range", any [
    oneOf ["unary_expression", "reference_expression", "try_expression", "binary_expression",
      "assignment_expression", "compound_assignment_expr", "type_cast_expression",
      "call_expression", "return_expression", "yield_expression", "_literal"],
    precLeft 0 identifier, primitiveName, precLeft 0 (the "_reserved_identifier"), "self",
    oneOf ["scoped_identifier", "generic_function", "await_expression", "field_expression",
      "array_expression", "tuple_expression"],
    prec 1 (the "macro_invocation"),
    oneOf ["unit_expression", "break_expression", "continue_expression", "index_expression"],
    metavariable,
    oneOf ["closure_expression", "parenthesized_expression", "struct_expression",
      "_expression_ending_with_block"]]),
  ("_expression", oneOf ["_expression_except_range", "range_expression"]),
  ("_expression_ending_with_block", oneOf ["unsafe_block", "async_block", "gen_block", "try_block",
    "block", "if_expression", "match_expression", "while_expression", "loop_expression",
    "for_expression", "const_block"]),
  ("macro_invocation", all [
    field "macro" (any [the "scoped_identifier", identifier, the "_reserved_identifier"]), "!",
    .named "token_tree" (the "delim_token_tree")]),
  ("delim_token_tree", bracketedTokens),
  ("_delim_tokens", any [the "_non_delim_token", .named "token_tree" (the "delim_token_tree")]),
  ("_non_delim_token", any [the "_non_special_token", "$"]),
  ("scoped_identifier", all [
    field "path" (opt (any [the "_path", the "bracketed_type",
      .named "generic_type" (the "generic_type_with_turbofish")])), "::",
    field "name" (any [identifier, "super"])]),
  ("scoped_type_identifier_in_expression_position", prec (-2) (all [
    field "path" (opt (any [the "_path",
      .named "generic_type" (the "generic_type_with_turbofish")])), "::",
    field "name" (the "_type_identifier")])),
  ("scoped_type_identifier", all [
    field "path" (opt (any [the "_path",
      .named "generic_type" (the "generic_type_with_turbofish"), the "bracketed_type",
      the "generic_type"])), "::",
    field "name" (the "_type_identifier")]),
  ("range_expression", precLeft Rank.range (any [
    all [expression, words ["..", "...", "..="], expression],
    all [expression, ".."], all ["..", expression], ".."])),
  ("unary_expression", prec Rank.unary (all [words ["-", "*", "!"], expression])),
  ("try_expression", prec Rank.question (all [expression, "?"])),
  ("reference_expression", prec Rank.unary (all ["&",
    any [all ["raw", any ["const", "mut"]], opt "mut"], field "value" expression])),
  ("binary_expression", any (Rank.binary.map fun (rank, operators) =>
    precLeft rank (all [field "left" expression, field "operator" (words operators),
      field "right" expression]))),
  ("assignment_expression", precLeft Rank.assign (all [field "left" expression, "=",
    field "right" expression])),
  ("compound_assignment_expr", precLeft Rank.assign (all [field "left" expression,
    field "operator" (words ["+=", "-=", "*=", "/=", "%=", "&=", "|=", "^=", "<<=", ">>="]),
    field "right" expression])),
  ("type_cast_expression", precLeft Rank.cast (all [field "value" expression, "as",
    field "type" (the "_type")])),
  ("return_expression", any [precLeft 0 (all ["return", expression]), prec (-1) "return"]),
  ("yield_expression", any [precLeft 0 (all ["yield", expression]), prec (-1) "yield"]),
  ("call_expression", prec Rank.call (all [field "function" (the "_expression_except_range"),
    field "arguments" (the "arguments")])),
  ("arguments", parens (commaList (all [many (the "attribute_item"), expression])))]
where
  /-- Tokens between brackets of one kind. -/
  bracketedTokens : R :=
    any [parens [many (the "_delim_tokens")], brackets [many (the "_delim_tokens")],
      braces [many (the "_delim_tokens")]]

/-- The rules for the other expressions. -/
def expressionRules : List (String × R) := [
  ("array_expression", brackets [many (the "attribute_item"), any [
    all [expression, ";", field "length" expression],
    all (commaList (all [many (the "attribute_item"), expression]))]]),
  ("parenthesized_expression", parens [expression]),
  ("tuple_expression", parens [many (the "attribute_item"), all [expression, ","],
    many (all [expression, ","]), opt expression]),
  ("unit_expression", parens []),
  ("struct_expression", all [
    field "name" (any [the "_type_identifier",
      .named "scoped_type_identifier" (the "scoped_type_identifier_in_expression_position"),
      the "generic_type_with_turbofish"]),
    field "body" (the "field_initializer_list")]),
  ("field_initializer_list", braces (commaList (oneOf ["shorthand_field_initializer",
    "field_initializer", "base_field_initializer"]))),
  ("shorthand_field_initializer", all [many (the "attribute_item"), identifier]),
  ("field_initializer", all [many (the "attribute_item"),
    field "field" (any [the "_field_identifier", .token .integer]), ":",
    field "value" expression]),
  ("base_field_initializer", all ["..", expression]),
  ("if_expression", precRight 0 (all ["if", field "condition" (the "_condition"),
    field "consequence" (the "block"), opt (field "alternative" (the "else_clause"))])),
  ("let_condition", all ["let", field "pattern" pattern, "=",
    field "value" (precLeft Rank.conjunction expression)]),
  ("_let_chain", precLeft Rank.conjunction (any [
    all [the "_let_chain", "&&", the "let_condition"],
    all [the "_let_chain", "&&", expression],
    all [the "let_condition", "&&", expression],
    all [the "let_condition", "&&", the "let_condition"],
    all [expression, "&&", the "let_condition"]])),
  ("_condition", any [expression, the "let_condition", .named "let_chain" (the "_let_chain")]),
  ("else_clause", all ["else", oneOf ["block", "if_expression"]]),
  ("match_expression", all ["match", field "value" expression, field "body" (the "match_block")]),
  ("match_block", braces [opt (all [many (the "match_arm"),
    .named "match_arm" (the "last_match_arm")])]),
  ("match_arm", precRight 0 (all [armAttributes, field "pattern" (the "match_pattern"), "=>",
    any [all [field "value" expression, ","],
      field "value" (prec 1 (the "_expression_ending_with_block"))]])),
  ("last_match_arm", all [armAttributes, field "pattern" (the "match_pattern"), "=>",
    field "value" expression, opt ","]),
  ("match_pattern", all [pattern, opt (all ["if", field "condition" (the "_condition")])]),
  ("while_expression", all [optLabel, "while", field "condition" (the "_condition"),
    field "body" (the "block")]),
  ("loop_expression", all [optLabel, "loop", field "body" (the "block")]),
  ("for_expression", all [optLabel, "for", field "pattern" pattern, "in",
    field "value" expression, field "body" (the "block")]),
  ("const_block", all ["const", field "body" (the "block")]),
  ("closure_expression", prec Rank.closure (all [opt "static", opt "async", opt "move",
    field "parameters" (the "closure_parameters"), any [
      all [opt (all ["->", field "return_type" (the "_type")]), field "body" (the "block")],
      field "body" (any [expression, "_"])]])),
  ("closure_parameters", all ["|", sepBy "," (oneOf ["_pattern", "parameter"]), "|"]),
  ("label", all ["'", identifier]),
  ("break_expression", precLeft 0 (all ["break", opt (the "label"), opt expression])),
  ("continue_expression", precLeft 0 (all ["continue", opt (the "label")])),
  ("index_expression", prec Rank.call (all [expression, brackets [expression]])),
  ("await_expression", prec Rank.access (all [expression, ".", "await"])),
  ("field_expression", prec Rank.access (all [field "value" expression, ".",
    field "field" (any [the "_field_identifier", .token .integer])])),
  ("unsafe_block", all ["unsafe", the "block"]),
  ("async_block", all ["async", opt "move", the "block"]),
  ("gen_block", all ["gen", opt "move", the "block"]),
  ("try_block", all ["try", the "block"]),
  ("block", all [optLabel, braces [many (the "_statement"), opt expression]])]

/-- The rules for patterns. -/
def patternRules : List (String × R) := [
  ("_pattern", any [the "_literal_pattern", primitiveName, identifier,
    oneOf ["scoped_identifier", "generic_pattern", "tuple_pattern", "tuple_struct_pattern",
      "struct_pattern", "_reserved_identifier", "ref_pattern", "slice_pattern",
      "captured_pattern", "reference_pattern", "remaining_field_pattern", "mut_pattern",
      "range_pattern", "or_pattern", "const_block", "macro_invocation"],
    "_"]),
  ("generic_pattern", all [any [identifier, the "scoped_identifier"], "::",
    field "type_arguments" (the "type_arguments")]),
  ("tuple_pattern", parens (commaList (any [pattern, the "closure_expression"]))),
  ("slice_pattern", brackets (commaList pattern)),
  ("tuple_struct_pattern", all [
    field "type" (any [identifier, the "scoped_identifier",
      .named "generic_type" (the "generic_type_with_turbofish")]),
    parens (commaList pattern)]),
  ("struct_pattern", all [field "type" (oneOf ["_type_identifier", "scoped_type_identifier"]),
    braces (commaList (oneOf ["field_pattern", "remaining_field_pattern"]))]),
  ("field_pattern", all [opt "ref", opt "mut", any [
    field "name" (.named "shorthand_field_identifier" identifier),
    all [field "name" (the "_field_identifier"), ":", field "pattern" pattern]]]),
  ("remaining_field_pattern", ".."),
  ("mut_pattern", prec (-1) (all ["mut", pattern])),
  ("range_pattern", any [
    all [field "left" (oneOf ["_literal_pattern", "_path"]), any [
      all [words ["...", "..=", ".."], field "right" (oneOf ["_literal_pattern", "_path"])],
      ".."]],
    all [words ["..=", ".."], field "right" (oneOf ["_literal_pattern", "_path"])]]),
  ("ref_pattern", all ["ref", pattern]),
  ("captured_pattern", all [identifier, "@", pattern]),
  ("reference_pattern", all ["&", opt "mut", pattern]),
  ("or_pattern", precLeft (-2) (any [all [pattern, "|", pattern], all ["|", pattern]]))]

/-- The rules for literals and names. -/
def literalRules : List (String × R) := [
  ("_literal", any [.token .string, .token .rawString, .token .character, the "boolean_literal",
    .token .integer, .token .float]),
  ("_literal_pattern", any [.token .string, .token .rawString, .token .character,
    the "boolean_literal", .token .integer, .token .float, the "negative_literal"]),
  ("negative_literal", all ["-", any [.token .integer, .token .float]]),
  ("boolean_literal", words ["true", "false"]),
  ("_path", any ["self", primitiveName, metavariable, "super", "crate", identifier,
    the "scoped_identifier", the "_reserved_identifier"]),
  ("_reserved_identifier", .named "identifier" (words ["default", "union", "gen", "raw"])),
  ("_type_identifier", .named "type_identifier" identifier),
  ("_field_identifier", .named "field_identifier" identifier)]

end CrateAtlas.Rust
