import CrateAtlas.Grammar.Rule
import CrateAtlas.Rust.Token

/-!
# Writing rules of Rust

Short forms for the rules of the grammar.  A string stands for the token with exactly that text, and
`the` calls another rule.  The precedences of the operators are those of the language, from closures
at the bottom to calls at the top.
-/

set_option autoImplicit false

namespace CrateAtlas.Rust

open Grammar

/-- A rule over the tokens of Rust. -/
abbrev R := Rule Token

instance : Coe String R := ⟨fun text => .token (.literal text)⟩

/-- Another rule, by name. -/
def the (name : String) : R := .call name

/-- One of the other rules with the given names. -/
def oneOf (names : List String) : R := Rule.any (names.map the)

/-- One of the fixed texts. -/
def words (texts : List String) : R := Rule.any (texts.map fun text => .token (.literal text))

/-- An identifier. -/
def identifier : R := .token .identifier

/-- A macro variable. -/
def metavariable : R := .token .metavariable

/-- The left brace. -/
def leftBrace : R := "\x7b"

/-- The right brace. -/
def rightBrace : R := "\x7d"

/-- Between braces. -/
def braces (body : List R) : R := Rule.all (leftBrace :: (body ++ [rightBrace]))

/-- Between parentheses. -/
def parens (body : List R) : R := Rule.all (("(" : R) :: (body ++ [(")" : R)]))

/-- Between brackets. -/
def brackets (body : List R) : R := Rule.all (("[" : R) :: (body ++ [("]" : R)]))

/-- Between angles. -/
def angles (body : List R) : R := Rule.all (("<" : R) :: (body ++ [(">" : R)]))

/-- Between the angles that hold the arguments of a type. -/
def typeAngles (body : List R) : R :=
  Rule.all (.token .typeOpen :: (body ++ [(">" : R)]))

/-- Any number of items with commas between them, and perhaps one after the last. -/
def commaList (item : R) : List R := [Rule.sepBy "," item, Rule.opt ","]

/-- At least one item, with commas between them, and perhaps one after the last. -/
def commaList1 (item : R) : List R := [Rule.sepBy1 "," item, Rule.opt ","]

/-- The types of numbers. -/
def numberTypes : List String :=
  ["u8", "i8", "u16", "i16", "u32", "i32", "u64", "i64", "u128", "i128", "isize", "usize", "f32",
    "f64"]

/-- The types that are built in. -/
def primitiveTypes : R := words (numberTypes ++ ["bool", "str", "char"])

/-- A type that is built in, where a type is meant. -/
def primitiveType : R := .named "primitive_type" primitiveTypes

/-- A type that is built in, where a name is meant. -/
def primitiveName : R := .named "identifier" primitiveTypes

namespace Rank

/-- Calls and indexing. -/
def call : Int := 15
/-- Access to a field. -/
def access : Int := 14
/-- The question mark. -/
def question : Int := 13
/-- Operators before their operand. -/
def unary : Int := 12
/-- Casts. -/
def cast : Int := 11
/-- Assignments. -/
def assign : Int := 0
/-- Ranges. -/
def range : Int := 1
/-- Conjunctions. -/
def conjunction : Int := 3
/-- Closures. -/
def closure : Int := -1

/-- The operators between two operands, by precedence. -/
def binary : List (Int × List String) :=
  [(3, ["&&"]), (2, ["||"]), (7, ["&"]), (5, ["|"]), (6, ["^"]),
    (4, ["==", "!=", "<", "<=", ">", ">="]), (8, ["<<", ">>"]), (9, ["+", "-"]),
    (10, ["*", "/", "%"])]

end Rank

end CrateAtlas.Rust
