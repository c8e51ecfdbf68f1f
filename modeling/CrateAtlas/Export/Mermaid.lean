import CrateAtlas.ModuleGraph

/-!
# Mermaid diagrams

A graph as a Mermaid flowchart: a header with the orientation, a line for each module, an empty
line, and a line for each edge.  `markdown` puts the diagrams of several crates into one document,
a section with a fenced block for each.
-/

set_option autoImplicit false

namespace CrateAtlas.Mermaid

/-- Replaces every `::` by an underscore. -/
def joinWords : List Char → List Char
  | [] => []
  | ':' :: ':' :: cs => '_' :: joinWords cs
  | c :: cs => c :: joinWords cs

/-- The identifier of a module in a diagram. -/
def nodeId (path : ModulePath) : String := String.ofList (joinWords path.render.toList)

/-- The line of a module. -/
def nodeLine (m : Module) : String :=
  "    " ++ nodeId m.path ++ "[\"" ++ m.path.render ++ "\"]"

/-- The arrow of an edge. -/
def arrow (dashed : Bool) (kind : EdgeKind) : String :=
  if dashed && kind = .imports then "-.->" else "-->"

/-- The line of an edge. -/
def edgeLine (dashed : Bool) (e : Edge) : String :=
  "    " ++ nodeId e.source ++ " " ++ arrow dashed e.kind ++ " " ++ nodeId e.target

/-- The lines of a diagram. -/
def lines (g : ModuleGraph) (orientation : String) (dashed : Bool) : List String :=
  ("flowchart " ++ orientation) :: g.sortedModules.map nodeLine ++
    "" :: g.sortedEdges.map (edgeLine dashed)

/-- The diagram of a graph. -/
def diagram (g : ModuleGraph) (orientation : String) (dashed : Bool) : String :=
  "\n".intercalate (lines g orientation dashed) ++ "\n"

/-- The section of a graph. -/
def sectionText (g : ModuleGraph) (orientation : String) (dashed : Bool) : String :=
  "## " ++ g.unit ++ "\n\n```mermaid\n" ++ diagram g orientation dashed ++ "```\n"

/-- A document with a section for each graph. -/
def markdown (graphs : List ModuleGraph) (orientation : String) (dashed : Bool) : String :=
  "\n".intercalate (graphs.map fun g => sectionText g orientation dashed)

end CrateAtlas.Mermaid
