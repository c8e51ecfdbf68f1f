import CrateAtlas.Failure

/-!
# Use trees

The clause of a `use` item is a tree: a chain of path segments that ends in a name, a renamed name,
a glob, or a group of further trees.  `UseTree.flatten` lists the paths that a tree imports, from
left to right.  A tree may hold a *foreign* value where a subtree should be, if it was put together
by other means than reading source code; flattening fails on the leftmost one, with a message that
shows it.
-/

set_option autoImplicit false

namespace CrateAtlas

/-- The clause of a `use` item. -/
inductive UseTree where
  /-- A path segment, and what comes after it. -/
  | path (segment : String) (tree : UseTree)
  /-- An imported name. -/
  | name (segment : String)
  /-- A name imported under another one. -/
  | rename (segment newName : String)
  /-- Everything in the enclosing path. -/
  | glob
  /-- Several clauses under the same path. -/
  | group (items : List UseTree)
  /-- A value that is no use tree. -/
  | foreign (value : Value)

/-- A path as it is written in a `use` item: its segments. -/
abbrev RawPath := List String

/-- The failure on a value that is no use tree.  A value that cannot be written cannot be shown
either. -/
def Failure.ofForeign (value : Value) : Failure :=
  if value.hasLong then .scalar .unwritable else .foreignUse value.quoted

namespace UseTree

instance : Inhabited UseTree := ⟨.glob⟩

mutual

/-- The paths that a tree imports, each after the given segments.  A name contributes the path
that ends in it, and a glob the path of what it opens.  The leftmost foreign value is a failure. -/
def flatten : UseTree → RawPath → Except Failure (List RawPath)
  | .path segment tree, before => flatten tree (before ++ [segment])
  | .name segment, before => .ok [before ++ [segment]]
  | .rename segment _, before => .ok [before ++ [segment]]
  | .glob, before => .ok [before]
  | .group items, before => flattenAll items before
  | .foreign value, _ => .error (.ofForeign value)

/-- The paths that a list of trees imports. -/
def flattenAll : List UseTree → RawPath → Except Failure (List RawPath)
  | [], _ => .ok []
  | tree :: rest, before =>
    match flatten tree before with
    | .error f => .error f
    | .ok paths =>
      match flattenAll rest before with
      | .error f => .error f
      | .ok others => .ok (paths ++ others)

end

/-- Puts a tree below a chain of segments. -/
def wrap (segments : List String) (tree : UseTree) : UseTree := segments.foldr .path tree

end UseTree

end CrateAtlas
