/-!
# Concrete syntax trees

A node of a syntax tree says what kind of construct it is, what text it covers, where it starts and
which nodes stand below it.  Tokens that carry no meaning of their own, such as brackets and
keywords, are children too, but they are not *named*; the extraction of items looks at named
children only.  A child may be filed under a *field* of its parent, which is how the name or the
body of an item is found.

A tree that was repaired after a syntax error holds nodes of kind `ERROR` and nodes that are
`missing` from the text.  Every node above such a node is `broken`, so the search for the first
damaged node, `Node.firstFault?`, may pass over the children that are sound.
-/

set_option autoImplicit false

namespace CrateAtlas

/-- A place in a text: the row, counted from zero, and the column in bytes. -/
structure Point where
  row : Nat
  column : Nat
deriving DecidableEq, Repr, Inhabited

/-- A node of a concrete syntax tree. -/
structure Node where
  /-- What kind of construct the node is. -/
  kind : String
  /-- The text that the node covers, where it is known. -/
  text : Option String
  /-- Whether the node is more than punctuation or a keyword. -/
  named : Bool
  /-- Whether the node was put in by error recovery. -/
  missing : Bool
  /-- Whether an error lies at or below the node. -/
  broken : Bool
  /-- Where the node starts. -/
  start : Point
  /-- The field of the parent under which the node is filed. -/
  field : Option String
  /-- The nodes below, in the order of the text. -/
  children : List Node

namespace Node

instance : Inhabited Node := ⟨⟨"", none, false, false, false, ⟨0, 0⟩, none, []⟩⟩

/-- The text of a node; a node without text has the empty one. -/
def contents (n : Node) : String := n.text.getD ""

/-- The children that are named, in order. -/
def namedChildren (n : Node) : List Node := n.children.filter Node.named

/-- The first child filed under the given field. -/
def child? (n : Node) (field : String) : Option Node :=
  n.children.find? fun c => c.field = some field

/-- Whether the node is a comment. -/
def isComment (n : Node) : Bool := n.kind = "line_comment" || n.kind = "block_comment"

/-- Whether the node itself is damaged: a stretch of text that does not parse, or a token that
should have been there. -/
def isFault (n : Node) : Bool := n.kind = "ERROR" || n.missing

mutual

/-- The first damaged node, from the top down and from left to right.  Children that are neither
broken nor missing are passed over. -/
def firstFault? : Node → Option Node
  | ⟨kind, text, named, missing, broken, start, field, children⟩ =>
    if kind = "ERROR" ∨ missing = true then
      some ⟨kind, text, named, missing, broken, start, field, children⟩
    else firstFaultIn? children

/-- The first damaged node at or below one of the given nodes. -/
def firstFaultIn? : List Node → Option Node
  | [] => none
  | c :: cs =>
    if c.broken || c.missing then
      match firstFault? c with
      | some found => some found
      | none => firstFaultIn? cs
    else firstFaultIn? cs

end

end Node

end CrateAtlas
