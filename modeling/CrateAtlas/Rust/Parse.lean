import CrateAtlas.Rust.Grammar.Items
import CrateAtlas.Rust.Grammar.Types
import CrateAtlas.Rust.Grammar.Expressions
import CrateAtlas.Rust.Scan

/-!
# Parsing Rust source

`Rust.parse?` gives the syntax tree of a source text, or `none` if the text is not Rust.  The rules
are in `Rust.Grammar`, the tokens in `Rust.Scan`; the machine that puts them together is the one of
`Grammar.Parse`.
-/

set_option autoImplicit false

namespace CrateAtlas.Rust

/-- The grammar of Rust source files. -/
def grammar : Grammar Token where
  rules := fileRules ++ itemRules ++ importRules ++ typeRules ++ operatorRules ++
    expressionRules ++ patternRules ++ literalRules
  inlined := ["_path", "_type_identifier", "_tokens", "_field_identifier", "_non_special_token",
    "_declaration_statement", "_reserved_identifier", "_expression_ending_with_block"]

/-- Rust, ready to be parsed. -/
def language : Grammar.Language Token where
  table := Grammar.Table.ofGrammar grammar
  scan := scan
  kind := Token.kind
  isNamed := Token.isNamed

/-- The syntax tree of a source text. -/
def parse? (text : String) : Option Node := language.parse? text

end CrateAtlas.Rust
