import CrateAtlas.Diagnostic
import CrateAtlas.ModulePath
import CrateAtlas.Text.Quoted
import CrateAtlas.Text.Wildcard

/-!
# Module graphs

The graph of one crate: its modules, the edges from a module to those it declares or imports from,
and the diagnostics noted on the way.  Modules and edges keep the order in which they were added.

* There is at most one module for each path and one edge for each pair of paths; **the first one
  added stays**.  Both ends of an edge are modules of the graph, and no edge leads from a module to
  itself.
* A graph is *frozen* once it is complete.  Nothing can be added to a frozen graph.
* `ModuleGraph.without` leaves out modules, with everything below them.
-/

set_option autoImplicit false

namespace CrateAtlas

/-- How the contents of a module are stored. -/
inductive ModuleKind where
  | root
  | inline
  | external
deriving DecidableEq, Repr, Inhabited

/-- The name of a kind of module. -/
def ModuleKind.label : ModuleKind → String
  | .root => "root"
  | .inline => "inline"
  | .external => "external"

/-- How an edge came about. -/
inductive EdgeKind where
  /-- The source declares the target. -/
  | declares
  /-- A `use` item of the source leads into the target. -/
  | imports
deriving DecidableEq, Repr, Inhabited

/-- The name of a kind of edge. -/
def EdgeKind.label : EdgeKind → String
  | .declares => "declaration"
  | .imports => "import"

/-- A module of a crate.  An inline module has no file of its own. -/
structure Module where
  path : ModulePath
  kind : ModuleKind
  file : Option Path
deriving DecidableEq, Repr, Inhabited

/-- A dependency of one module on another. -/
structure Edge where
  source : ModulePath
  target : ModulePath
  kind : EdgeKind
deriving DecidableEq, Repr, Inhabited

/-- The modules of a crate and their dependencies. -/
structure ModuleGraph where
  unit : String
  modules : List Module
  edges : List Edge
  diagnostics : List Diagnostic
  frozen : Bool
deriving DecidableEq, Repr, Inhabited

/-- Why something cannot be added to a graph. -/
inductive GraphFault where
  | frozen (unit : String)
  | unknownModule (path : ModulePath) (unit : String)
deriving DecidableEq, Repr

/-- The words for why something cannot be added. -/
def GraphFault.message : GraphFault → String
  | .frozen unit => "module graph for '" ++ unit ++ "' is frozen"
  | .unknownModule path unit => "unknown module '" ++ path.render ++ "' in '" ++ unit ++ "'"

namespace ModuleGraph

/-- The graph of a crate of which nothing is known yet. -/
def empty (unit : String) : ModuleGraph := ⟨unit, [], [], [], false⟩

/-! ## Looking up -/

/-- The module with the given path. -/
def module? (g : ModuleGraph) (path : ModulePath) : Option Module :=
  g.modules.find? fun m => m.path = path

/-- Whether there is a module with the given path. -/
def contains (g : ModuleGraph) (path : ModulePath) : Bool := (g.module? path).isSome

/-- The edge between two modules. -/
def edge? (g : ModuleGraph) (source target : ModulePath) : Option Edge :=
  g.edges.find? fun e => e.source = source ∧ e.target = target

/-- The paths of the modules, in the order in which they were added. -/
def paths (g : ModuleGraph) : List ModulePath := g.modules.map Module.path

/-- The modules that a module depends on. -/
def targets (g : ModuleGraph) (source : ModulePath) : List ModulePath :=
  (g.edges.filter fun e => e.source = source).map Edge.target

/-- The modules that a module is joined to by edges of a kind, in order. -/
def targetsBy (g : ModuleGraph) (kind : EdgeKind) (source : ModulePath) : List ModulePath :=
  ModulePath.sort ((g.edges.filter fun e => e.source = source ∧ e.kind = kind).map Edge.target)

/-- The modules that a module declares, in order. -/
def children (g : ModuleGraph) (parent : ModulePath) : List ModulePath :=
  g.targetsBy .declares parent

/-- The modules in the order of their paths. -/
def sortedModules (g : ModuleGraph) : List Module :=
  g.modules.mergeSort fun a b => !b.path.before a.path

/-- The order of edges: by source, then by target. -/
def edgeBefore (a b : Edge) : Bool :=
  if a.source.render = b.source.render then a.target.before b.target
  else a.source.before b.source

/-- The edges in order. -/
def sortedEdges (g : ModuleGraph) : List Edge := g.edges.mergeSort fun a b => !edgeBefore b a

/-- A graph in short: its crate and the numbers of its parts. -/
def summary (g : ModuleGraph) : String :=
  "ModuleGraph(unit=" ++ Text.quoted g.unit ++ ", modules=" ++ toString g.modules.length ++
    ", edges=" ++ toString g.edges.length ++ ", diagnostics=" ++ toString g.diagnostics.length ++
    ")"

/-! ## Adding -/

/-- Ends the discovery: from now on nothing can be added. -/
def freeze (g : ModuleGraph) : ModuleGraph := { g with frozen := true }

/-- Adds a module, unless there is one with its path.  The flag says whether it was added. -/
def addModule (g : ModuleGraph) (m : Module) : Except GraphFault (ModuleGraph × Bool) :=
  if g.frozen then .error (.frozen g.unit)
  else if g.contains m.path then .ok (g, false)
  else .ok ({ g with modules := g.modules ++ [m] }, true)

/-- Adds an edge, unless it leads from a module to itself or there is one between the two modules.
The flag says whether it was added. -/
def addEdge (g : ModuleGraph) (e : Edge) : Except GraphFault (ModuleGraph × Bool) :=
  if g.frozen then .error (.frozen g.unit)
  else if !g.contains e.source then .error (.unknownModule e.source g.unit)
  else if !g.contains e.target then .error (.unknownModule e.target g.unit)
  else if e.source = e.target ∨ (g.edge? e.source e.target).isSome then .ok (g, false)
  else .ok ({ g with edges := g.edges ++ [e] }, true)

/-- Notes a diagnostic. -/
def addDiagnostic (g : ModuleGraph) (d : Diagnostic) : Except GraphFault ModuleGraph :=
  if g.frozen then .error (.frozen g.unit)
  else .ok { g with diagnostics := g.diagnostics ++ [d] }

/-! ## Leaving out -/

/-- The graph without the modules that satisfy a predicate, without everything below them and
without their edges.  The root always stays.  The result is frozen. -/
def without (g : ModuleGraph) (p : ModulePath → Bool) : ModuleGraph :=
  let gone := g.paths.filter fun path => !path.isRoot && p path
  let isGone (path : ModulePath) : Bool := gone.any path.isWithin
  { g with
    modules := g.modules.filter fun m => !isGone m.path
    edges := g.edges.filter fun e => !isGone e.source && !isGone e.target
    frozen := true }

/-- Whether the written form of a path matches one of the patterns. -/
def matchesAny (patterns : List String) (path : ModulePath) : Bool :=
  patterns.any fun pattern => Text.wildcard pattern path.render

/-- Whether a module is to be left out. -/
def isExcluded (patterns : List String) (tests : Bool) (path : ModulePath) : Bool :=
  (tests && path.isTests) || matchesAny patterns path

/-- Whether nothing at all is to be left out. -/
def excludesNothing (patterns : List String) (tests : Bool) : Bool := patterns.isEmpty && !tests

/-- The graph without the modules that match a pattern and, if asked for, without every module
called `tests`. -/
def exclude (g : ModuleGraph) (patterns : List String) (tests : Bool) : ModuleGraph :=
  if excludesNothing patterns tests then g else g.without (isExcluded patterns tests)

end ModuleGraph

end CrateAtlas
