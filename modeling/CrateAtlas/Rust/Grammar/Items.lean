import CrateAtlas.Rust.Grammar.Forms

/-!
# Items

The rules for declarations: modules, imports, functions, types, implementations, attributes and
macro definitions, and for the token trees that macros take.
-/

set_option autoImplicit false

namespace CrateAtlas.Rust

open Grammar Rule

/-- Punctuation that may stand in a token tree. -/
def treePunctuation : List String :=
  ["+", "-", "*", "/", "%", "^", "!", "&", "|", "&&", "||", "<<", ">>", "+=", "-=", "*=", "/=",
    "%=", "^=", "&=", "|=", "<<=", ">>=", "=", "==", "!=", ">", "<", ">=", "<=", "@", "_", ".",
    "..", "...", "..=", ",", ";", ":", "::", "->", "=>", "#", "?"]

/-- Keywords that may stand in a token tree. -/
def treeKeywords : List String :=
  ["as", "async", "await", "break", "const", "continue", "default", "enum", "fn", "for", "gen",
    "if", "impl", "let", "loop", "match", "mod", "pub", "return", "static", "struct", "trait",
    "type", "union", "unsafe", "use", "where", "while"]

/-- A sequence of the given rule between brackets of one kind. -/
def bracketed (body : R) : R :=
  any [parens [many body], brackets [many body], braces [many body]]

/-- An optional visibility. -/
def visibility : R := opt (the "visibility_modifier")

/-- Optional type parameters. -/
def typeParameters : R := field "type_parameters" (opt (the "type_parameters"))

/-- An optional condition on types. -/
def whereClause : R := opt (the "where_clause")

/-- What comes before the body of a function. -/
def signature : List R :=
  [visibility, opt (the "function_modifiers"), "fn",
    field "name" (any [identifier, metavariable]), typeParameters,
    field "parameters" (the "parameters"), opt (all ["->", field "return_type" (the "_type")]),
    whereClause]

/-- The rules of a macro definition. -/
def macroRuleList : R := all [many (all [the "macro_rule", ";"]), opt (the "macro_rule")]

/-- The rules for source files and macros. -/
def fileRules : List (String × R) := [
  ("source_file", all [opt (.token .shebang), many (the "_statement")]),
  ("_statement", oneOf ["expression_statement", "_declaration_statement"]),
  ("empty_statement", ";"),
  ("expression_statement", any [
    all [the "_expression", ";"],
    prec 1 (the "_expression_ending_with_block")]),
  ("_declaration_statement", oneOf ["const_item", "macro_invocation", "macro_definition",
    "empty_statement", "attribute_item", "inner_attribute_item", "mod_item", "foreign_mod_item",
    "struct_item", "union_item", "enum_item", "type_item", "function_item",
    "function_signature_item", "impl_item", "trait_item", "associated_type", "let_declaration",
    "use_declaration", "extern_crate_declaration", "static_item"]),
  ("macro_definition", all ["macro_rules!",
    field "name" (any [identifier, the "_reserved_identifier"]),
    any [all [parens [macroRuleList], ";"], all [brackets [macroRuleList], ";"],
      braces [macroRuleList]]]),
  ("macro_rule", all [field "left" (the "token_tree_pattern"), "=>",
    field "right" (the "token_tree")]),
  ("_token_pattern", any [
    oneOf ["token_tree_pattern", "token_repetition_pattern", "token_binding_pattern"],
    metavariable, the "_non_special_token"]),
  ("token_tree_pattern", bracketed (the "_token_pattern")),
  ("token_binding_pattern", prec 1 (all [field "name" metavariable, ":",
    field "type" (the "fragment_specifier")])),
  ("token_repetition_pattern", all ["$", parens [many (the "_token_pattern")],
    opt (.token .separator), words ["+", "*", "?"]]),
  ("fragment_specifier", words ["block", "expr", "expr_2021", "ident", "item", "lifetime",
    "literal", "meta", "pat", "pat_param", "path", "stmt", "tt", "ty", "vis"]),
  ("_tokens", any [oneOf ["token_tree", "token_repetition"], metavariable,
    the "_non_special_token"]),
  ("token_tree", bracketed (the "_tokens")),
  ("token_repetition", all ["$", parens [many (the "_tokens")], opt (.token .separator),
    words ["+", "*", "?"]]),
  ("_non_special_token", any [the "_literal", identifier, "mut", "self", "super", "crate",
    primitiveType, precRight 0 (.plus (words treePunctuation)), "'", words treeKeywords])]

/-- The rules for attributes and declarations. -/
def itemRules : List (String × R) := [
  ("attribute_item", all ["#", brackets [the "attribute"]]),
  ("inner_attribute_item", all ["#", "!", brackets [the "attribute"]]),
  ("attribute", all [the "_path", opt (any [
    all ["=", field "value" (the "_expression")],
    field "arguments" (.named "token_tree" (the "delim_token_tree"))])]),
  ("mod_item", all [visibility, "mod", field "name" identifier,
    any [";", field "body" (the "declaration_list")]]),
  ("foreign_mod_item", all [visibility, opt "unsafe", the "extern_modifier",
    any [";", field "body" (the "declaration_list")]]),
  ("declaration_list", braces [many (the "_declaration_statement")]),
  ("struct_item", all [visibility, "struct", field "name" (the "_type_identifier"),
    typeParameters, any [
      all [whereClause, field "body" (the "field_declaration_list")],
      all [field "body" (the "ordered_field_declaration_list"), whereClause, ";"],
      ";"]]),
  ("union_item", all [visibility, "union", field "name" (the "_type_identifier"), typeParameters,
    whereClause, field "body" (the "field_declaration_list")]),
  ("enum_item", all [visibility, "enum", field "name" (the "_type_identifier"), typeParameters,
    whereClause, field "body" (the "enum_variant_list")]),
  ("enum_variant_list", braces (commaList (all [many (the "attribute_item"),
    the "enum_variant"]))),
  ("enum_variant", all [visibility, field "name" identifier,
    field "body" (opt (oneOf ["field_declaration_list", "ordered_field_declaration_list"])),
    opt (all ["=", field "value" (the "_expression")])]),
  ("field_declaration_list", braces (commaList (all [many (the "attribute_item"),
    the "field_declaration"]))),
  ("field_declaration", all [visibility, field "name" (the "_field_identifier"), ":",
    field "type" (the "_type")]),
  ("ordered_field_declaration_list", parens (commaList (all [many (the "attribute_item"),
    visibility, field "type" (the "_type")]))),
  ("extern_crate_declaration", all [visibility, "extern", "crate", field "name" identifier,
    opt (all ["as", field "alias" identifier]), ";"]),
  ("const_item", all [visibility, "const", field "name" identifier, ":",
    field "type" (the "_type"), opt (all ["=", field "value" (the "_expression")]), ";"]),
  ("static_item", all [visibility, "static", opt "ref", opt "mut", field "name" identifier, ":",
    field "type" (the "_type"), opt (all ["=", field "value" (the "_expression")]), ";"]),
  ("type_item", all [visibility, "type", field "name" (the "_type_identifier"), typeParameters,
    whereClause, "=", field "type" (the "_type"), whereClause, ";"]),
  ("function_item", all (signature ++ [field "body" (the "block")])),
  ("function_signature_item", all (signature ++ [(";" : R)])),
  ("function_modifiers", .plus (any ["async", "default", "const", "unsafe",
    the "extern_modifier"])),
  ("where_clause", precRight 0 (all ["where", opt (all (commaList1 (the "where_predicate")))])),
  ("where_predicate", all [
    field "left" (any [oneOf ["lifetime", "_type_identifier", "scoped_type_identifier",
      "generic_type", "reference_type", "pointer_type", "tuple_type", "array_type",
      "higher_ranked_trait_bound"], primitiveType]),
    field "bounds" (the "trait_bounds")]),
  ("impl_item", all [opt "unsafe", "impl", typeParameters,
    opt (all [opt "!", field "trait" (oneOf ["_type_identifier", "scoped_type_identifier",
      "generic_type"]), "for"]),
    field "type" (the "_type"), whereClause, any [field "body" (the "declaration_list"), ";"]]),
  ("trait_item", all [visibility, opt "unsafe", "trait", field "name" (the "_type_identifier"),
    typeParameters, field "bounds" (opt (the "trait_bounds")), whereClause,
    field "body" (the "declaration_list")]),
  ("associated_type", all ["type", field "name" (the "_type_identifier"), typeParameters,
    field "bounds" (opt (the "trait_bounds")), whereClause, ";"]),
  ("trait_bounds", all [":", sepBy1 "+" (oneOf ["_type", "lifetime",
    "higher_ranked_trait_bound"])]),
  ("higher_ranked_trait_bound", all ["for", field "type_parameters" (the "type_parameters"),
    field "type" (the "_type")]),
  ("removed_trait_bound", all ["?", the "_type"]),
  ("type_parameters", prec 1 (angles (commaList1 (all [many (the "attribute_item"),
    any [metavariable, oneOf ["type_parameter", "lifetime_parameter", "const_parameter"]]])))),
  ("const_parameter", all ["const", field "name" identifier, ":", field "type" (the "_type"),
    opt (all ["=", field "value" (any [the "block", identifier, the "_literal",
      the "negative_literal"])])]),
  ("type_parameter", prec 1 (all [field "name" (the "_type_identifier"),
    opt (field "bounds" (the "trait_bounds")),
    opt (all ["=", field "default_type" (the "_type")])])),
  ("lifetime_parameter", prec 1 (all [field "name" (the "lifetime"),
    opt (field "bounds" (the "trait_bounds"))])),
  ("let_declaration", all ["let", opt "mut", field "pattern" (the "_pattern"),
    opt (all [":", field "type" (the "_type")]),
    opt (all ["=", field "value" (the "_expression")]),
    opt (all ["else", field "alternative" (the "block")]), ";"])]

/-- The rules for imports, parameters and visibility. -/
def importRules : List (String × R) := [
  ("use_declaration", all [visibility, "use", field "argument" (the "_use_clause"), ";"]),
  ("_use_clause", oneOf ["_path", "use_as_clause", "use_list", "scoped_use_list",
    "use_wildcard"]),
  ("scoped_use_list", all [field "path" (opt (the "_path")), "::",
    field "list" (the "use_list")]),
  ("use_list", braces (commaList (the "_use_clause"))),
  ("use_as_clause", all [field "path" (the "_path"), "as", field "alias" identifier]),
  ("use_wildcard", all [opt (all [opt (the "_path"), "::"]), "*"]),
  ("parameters", parens (commaList (all [opt (the "attribute_item"),
    any [oneOf ["parameter", "self_parameter", "variadic_parameter"], "_", the "_type"]]))),
  ("self_parameter", all [opt "&", opt (the "lifetime"), opt "mut", "self"]),
  ("variadic_parameter", all [opt "mut", opt (all [field "pattern" (the "_pattern"), ":"]),
    "..."]),
  ("parameter", all [opt "mut", field "pattern" (any [the "_pattern", "self"]), ":",
    field "type" (the "_type")]),
  ("extern_modifier", all ["extern", opt (.token .string)]),
  ("visibility_modifier", any ["crate", all ["pub", opt (parens [
    any ["self", "super", "crate", all ["in", the "_path"]]])]])]

end CrateAtlas.Rust
