import CrateAtlas.ModuleGraph

/-!
# Outlines

A graph as an indented outline of its modules.  The name of the crate comes first, then a line for
each module that declarations lead to, each below the module that declares it.  The modules that a
module imports from stand after its name.
-/

set_option autoImplicit false

namespace CrateAtlas.Outline

/-- The strokes with which an outline is drawn: before a module that others follow, before the last
one, and below either of them. -/
structure Strokes where
  branch : String
  last : String
  vertical : String
  space : String
deriving Repr

/-- Box-drawing strokes. -/
def tree : Strokes := ⟨"├── ", "└── ", "│   ", "    "⟩

/-- Strokes of plain ASCII. -/
def ascii : Strokes := ⟨"|-- ", "\\-- ", "|   ", "    "⟩

/-- The strokes of the style with the given name; every name but `ascii` means box drawing. -/
def strokes (style : String) : Strokes := if style = "ascii" then ascii else tree

/-- The name of a module and what it imports from. -/
def label (g : ModuleGraph) (path : ModulePath) : String :=
  match g.targetsBy .imports path with
  | [] => path.name
  | imports => path.name ++ " -> " ++ ", ".intercalate (imports.map ModulePath.render)

/-- Pairs every element of a list with whether it is the last one. -/
def markLast {α : Type} : List α → List (α × Bool)
  | [] => []
  | [a] => [(a, true)]
  | a :: rest => (a, false) :: markLast rest

/-- The lines of a module and of those it declares, down to the given depth. -/
def moduleLines (g : ModuleGraph) (s : Strokes) : Nat → String → ModulePath → Bool → List String
  | 0, _, _, _ => []
  | depth + 1, lead, path, isLast =>
    (lead ++ (if isLast then s.last else s.branch) ++ label g path) ::
      (markLast (g.children path)).flatMap fun (child, isLastChild) =>
        moduleLines g s depth (lead ++ if isLast then s.space else s.vertical) child isLastChild

/-- The lines of the outline of a graph. -/
def lines (g : ModuleGraph) (s : Strokes) : List String :=
  g.unit :: moduleLines g s (g.modules.length + 1) "" .root true

/-- The outlines of several graphs, with an empty line between them. -/
def text (graphs : List ModuleGraph) (style : String) : String :=
  "\n\n".intercalate (graphs.map fun g => "\n".intercalate (lines g (strokes style)))

end CrateAtlas.Outline
