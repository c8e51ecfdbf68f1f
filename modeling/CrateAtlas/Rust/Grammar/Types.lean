import CrateAtlas.Rust.Grammar.Forms

/-!
# Types

The rules for types, their arguments and their bounds.
-/

set_option autoImplicit false

namespace CrateAtlas.Rust

open Grammar Rule

/-- The rules for types. -/
def typeRules : List (String × R) := [
  ("_type", any [oneOf ["abstract_type", "reference_type"], metavariable,
    oneOf ["pointer_type", "generic_type", "scoped_type_identifier", "tuple_type", "unit_type",
      "array_type", "function_type", "_type_identifier", "macro_invocation", "never_type",
      "dynamic_type", "bounded_type", "removed_trait_bound"],
    primitiveType]),
  ("bracketed_type", all ["<", oneOf ["_type", "qualified_type"], ">"]),
  ("qualified_type", all [field "type" (the "_type"), "as", field "alias" (the "_type")]),
  ("lifetime", prec 1 (all ["'", identifier])),
  ("array_type", brackets [field "element" (the "_type"),
    opt (all [";", field "length" (the "_expression")])]),
  ("for_lifetimes", all ["for", angles (commaList1 (the "lifetime"))]),
  ("function_type", all [opt (the "for_lifetimes"),
    prec Rank.call (all [
      any [field "trait" (oneOf ["_type_identifier", "scoped_type_identifier"]),
        all [opt (the "function_modifiers"), "fn"]],
      field "parameters" (the "parameters")]),
    opt (all ["->", field "return_type" (the "_type")])]),
  ("tuple_type", parens (commaList1 (the "_type"))),
  ("unit_type", parens []),
  ("generic_function", prec 1 (all [
    field "function" (any [identifier, oneOf ["scoped_identifier", "field_expression"]]), "::",
    field "type_arguments" (the "type_arguments")])),
  ("generic_type", prec 1 (all [
    field "type" (oneOf ["_type_identifier", "_reserved_identifier", "scoped_type_identifier"]),
    field "type_arguments" (the "type_arguments")])),
  ("generic_type_with_turbofish", all [
    field "type" (oneOf ["_type_identifier", "scoped_identifier"]), "::",
    field "type_arguments" (the "type_arguments")]),
  ("bounded_type", precLeft (-1) (any [
    all [the "lifetime", "+", the "_type"],
    all [the "_type", "+", the "_type"],
    all [the "_type", "+", the "lifetime"],
    all [the "_type", "+", the "use_bounds"]])),
  ("use_bounds", all ["use",
    typeAngles (commaList (oneOf ["lifetime", "_type_identifier"]))]),
  ("type_arguments", typeAngles (commaList1 (all [
    oneOf ["_type", "type_binding", "lifetime", "_literal", "block"],
    opt (the "trait_bounds")]))),
  ("type_binding", all [field "name" (the "_type_identifier"),
    field "type_arguments" (opt (the "type_arguments")), "=", field "type" (the "_type")]),
  ("reference_type", all ["&", opt (the "lifetime"), opt "mut", field "type" (the "_type")]),
  ("pointer_type", all ["*", any ["const", "mut"], field "type" (the "_type")]),
  ("never_type", "!"),
  ("abstract_type", all ["impl", opt (all ["for", the "type_parameters"]),
    field "trait" (prec 1 (oneOf ["_type_identifier", "scoped_type_identifier",
      "removed_trait_bound", "generic_type", "function_type", "tuple_type", "bounded_type"]))]),
  ("dynamic_type", all ["dyn", field "trait" (oneOf ["higher_ranked_trait_bound",
    "_type_identifier", "scoped_type_identifier", "generic_type", "function_type",
    "tuple_type"])])]

end CrateAtlas.Rust
