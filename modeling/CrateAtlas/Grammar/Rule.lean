/-!
# Grammar rules

A grammar is a list of named rules.  A rule describes what may stand in one place of a text: a
token, another rule, a sequence, a choice, a repetition.  Four kinds of marks steer the parser and
shape the tree:

* `ranked r a body` gives `body` the precedence `r` and, if `a` is given, says which way a chain of
  equal precedence leans;
* `field name body` files what `body` matches under a field of its parent;
* `named kind body` gives what `body` matches another kind of node.

Rules whose names start with an underscore are *hidden*: they leave no node of their own, and their
children belong to the node above.  The type `τ` is the type of tokens.
-/

set_option autoImplicit false

namespace CrateAtlas.Grammar

/-- Which way a chain of operators of equal precedence leans. -/
inductive Assoc where
  | left
  | right
deriving DecidableEq, Repr

/-- What may stand in one place of a text. -/
inductive Rule (τ : Type) where
  | blank
  | token (t : τ)
  | call (name : String)
  | seq (first second : Rule τ)
  | choice (first second : Rule τ)
  | plus (body : Rule τ)
  | ranked (rank : Int) (assoc : Option Assoc) (body : Rule τ)
  | field (name : String) (body : Rule τ)
  | named (kind : String) (body : Rule τ)
deriving BEq

namespace Rule

variable {τ : Type}

/-- All of the given rules, one after the other. -/
def all : List (Rule τ) → Rule τ
  | [] => .blank
  | [r] => r
  | r :: rs => .seq r (all rs)

/-- One of the given rules. -/
def any : List (Rule τ) → Rule τ
  | [] => .blank
  | [r] => r
  | r :: rs => .choice r (any rs)

/-- The rule, or nothing. -/
def opt (r : Rule τ) : Rule τ := .choice r .blank

/-- The rule any number of times. -/
def many (r : Rule τ) : Rule τ := opt (.plus r)

/-- The rule at least once, with `sep` in between. -/
def sepBy1 (sep r : Rule τ) : Rule τ := .seq r (many (.seq sep r))

/-- The rule any number of times, with `sep` in between. -/
def sepBy (sep r : Rule τ) : Rule τ := opt (sepBy1 sep r)

/-- Precedence without a lean. -/
def prec (rank : Int) (r : Rule τ) : Rule τ := .ranked rank none r

/-- Precedence that leans to the left. -/
def precLeft (rank : Int) (r : Rule τ) : Rule τ := .ranked rank (some .left) r

/-- Precedence that leans to the right. -/
def precRight (rank : Int) (r : Rule τ) : Rule τ := .ranked rank (some .right) r

end Rule

end CrateAtlas.Grammar

/-- A grammar: named rules, of which the first is the start, and the names of those that are put in
place wherever they are called. -/
structure CrateAtlas.Grammar (τ : Type) where
  rules : List (String × CrateAtlas.Grammar.Rule τ)
  inlined : List String

namespace CrateAtlas.Grammar

/-- Whether a rule leaves no node of its own. -/
def isHidden (name : String) : Bool := name.startsWith "_"

end CrateAtlas.Grammar
