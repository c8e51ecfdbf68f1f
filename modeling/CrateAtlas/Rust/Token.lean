/-!
# Tokens of Rust source

A token is either a fixed text, a keyword or a mark of punctuation, or it belongs to a class such as
the identifiers or the string literals.  The less-than sign that opens a list of type arguments is a
token of its own: where it can stand, no longer operator is looked for.
-/

set_option autoImplicit false

namespace CrateAtlas.Rust

/-- A token, up to its spelling. -/
inductive Token where
  /-- A keyword or a mark of punctuation with exactly this text. -/
  | literal (text : String)
  /-- The `<` that opens type arguments. -/
  | typeOpen
  | identifier
  /-- A macro variable, such as `$x`. -/
  | metavariable
  | integer
  | float
  | character
  | string
  | rawString
  /-- The line at the very start of a script that names its interpreter. -/
  | shebang
  /-- What separates the repetitions of a macro pattern. -/
  | separator
deriving DecidableEq, Hashable, Repr, Inhabited

/-- The kind of node that a token makes. -/
def Token.kind : Token → String
  | .literal text => if text = "mut" then "mutable_specifier" else text
  | .typeOpen => "<"
  | .identifier => "identifier"
  | .metavariable => "metavariable"
  | .integer => "integer_literal"
  | .float => "float_literal"
  | .character => "char_literal"
  | .string => "string_literal"
  | .rawString => "raw_string_literal"
  | .shebang => "shebang"
  | .separator => "separator"

/-- Whether a token makes a named node. -/
def Token.isNamed : Token → Bool
  | .literal text => text = "mut" || text = "self" || text = "super" || text = "crate"
  | .typeOpen | .separator => false
  | _ => true

end CrateAtlas.Rust
