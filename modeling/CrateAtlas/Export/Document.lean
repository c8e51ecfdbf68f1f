import CrateAtlas.Failure
import CrateAtlas.Json

/-!
# JSON documents

Graphs as a JSON document: one object for each crate, with its modules, its edges and the messages
of its diagnostics.  Files are shown relative to a base directory if they lie at or below it, which
is a question about the locations that both stand for; `Document.checked` fails on a path for which
there is no answer.
-/

set_option autoImplicit false

namespace CrateAtlas.Document

/-- A path with slashes only. -/
def slashed (p : Path) : String :=
  String.ofList (p.render.toList.map fun c => if c = '\\' then '/' else c)

/-- How a file is shown. -/
def fileText (t : FileTree) (base : Option Path) (file : Path) : String :=
  match base with
  | none => slashed file
  | some base =>
    if file.hasNull || base.hasNull then slashed file
    else
      match (t.resolve file).relativeTo? (t.resolve base) with
      | some relative => slashed relative
      | none => slashed file

/-- The object of a module. -/
def moduleObject (t : FileTree) (base : Option Path) (m : Module) : Json :=
  .object [("path", .string m.path.render), ("kind", .string m.kind.label),
    ("file", .optional (m.file.map (fileText t base)))]

/-- The object of an edge. -/
def edgeObject (e : Edge) : Json :=
  .object [("source", .string e.source.render), ("target", .string e.target.render),
    ("kind", .string e.kind.label)]

/-- The object of a graph. -/
def graphObject (t : FileTree) (base : Option Path) (g : ModuleGraph) : Json :=
  .object [("unit", .string g.unit),
    ("modules", .array (g.sortedModules.map (moduleObject t base))),
    ("edges", .array (g.sortedEdges.map edgeObject)),
    ("diagnostics", .strings (g.diagnostics.map Diagnostic.message))]

/-- The object of several graphs. -/
def object (t : FileTree) (base : Option Path) (graphs : List ModuleGraph) : Json :=
  .object [("units", .array (graphs.map (graphObject t base)))]

/-- The document of several graphs. -/
def text (t : FileTree) (base : Option Path) (graphs : List ModuleGraph) (indent : Json.Indent) :
    String :=
  (object t base graphs).render indent

/-- The path that leads round in circles when a file is to be shown relative to a base. -/
def fileLoop? (t : FileTree) (base : Option Path) (file : Path) : Option Path :=
  match base with
  | none => none
  | some base =>
    if file.hasNull then none
    else if t.loops file then some file
    else if base.hasNull then none
    else if t.loops base then some base
    else none

/-- The files of several graphs, in the order of the document. -/
def files (graphs : List ModuleGraph) : List Path :=
  graphs.flatMap fun g => g.sortedModules.filterMap Module.file

/-- The document of several graphs, unless a path on the way leads round in circles. -/
def checked (t : FileTree) (base : Option Path) (graphs : List ModuleGraph)
    (indent : Json.Indent) : Except Failure String :=
  match (files graphs).findSome? (fileLoop? t base) with
  | some p => .error (.linkLoop (t.resolve p))
  | none => .ok (text t base graphs indent)

end CrateAtlas.Document
