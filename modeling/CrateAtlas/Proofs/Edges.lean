import CrateAtlas.Proofs.BuiltGraph

/-!
# The edges of a crate

Two results on the edges of the graph of a crate, both read off `Built`.

* **Imports** (`graph_imports_exact`).  A module has an edge to each module that one of its use
  trees leads to, with all modules of the graph as known ones; itself and its children are left
  out.  A module whose items are missing has no edges.
* **Declarations** (`graph_declares_module_tree`).  Edges of the other kind form the module tree,
  and the paths and kinds of the modules fit it: this is `IsModuleTree`.  There is such a graph
  unless the root cannot be read, or the building runs into something (`Obstructed`).

The last condition is a real one.  A `path` attribute may hold any text, and one with the null
character in it ends the building, though only one declaration is at fault
(`graph_of_null_override`).
-/

set_option autoImplicit false

namespace CrateAtlas.Build

variable {t : FileTree} {parse : Source.Parser} {file : Path}

/-! ## Imports -/

/-- **The imports of a crate.**  An import leads from a module to each module that a use tree of its
block leads to, among all modules of the crate, except itself and its children.  A module without a
block has no edges at all. -/
theorem graph_imports_exact {unit : String} {g : ModuleGraph}
    (h : (graph parse t unit file).result = .ok g) (source : ModulePath) :
    (∀ target, (⟨source, target, .imports⟩ : Edge) ∈ g.edges ↔
      (∃ block, Scanned parse (rootOf t file) source block ∧
        ImportTarget.Leads g.contains source block.uses target) ∧
      target ≠ source ∧ target.parent? ≠ some source) ∧
    ((¬∃ block, Scanned parse (rootOf t file) source block) →
      ∀ e ∈ g.edges, e.source ≠ source) := by
  have hb := built_of_graph h
  refine ⟨fun target => hb.imports_mem_iff, fun hs e he hsource => hs ?_⟩
  rw [← hsource]
  exact hb.exists_scanned_source he

/-- In `mod a { use super::*; }` the inner module imports the root. -/
theorem exists_import_of_parent :
    ∃ g, (graph (Sample.parser Sample.globSource Sample.globRoot) (Sample.tree Sample.globSource)
        "demo" Sample.rootFile).result = .ok g ∧
      ⟨⟨["a"]⟩, .root, .imports⟩ ∈ g.edges := by
  obtain ⟨g, hg, hb⟩ := Sample.exists_built_globRoot
  have hroot : g.contains .root = true := hb.contains_iff.2 ⟨_, .root⟩
  refine ⟨g, hg, ((graph_imports_exact hg ⟨["a"]⟩).1 .root).2
    ⟨⟨_, ⟨_, Sample.declared_inner, rfl⟩, ?_⟩, by decide, by decide⟩⟩
  refine ⟨_, List.mem_cons_self, [["super"]], rfl, ["super"], List.mem_cons_self, ?_⟩
  have hstart : ImportTarget.start? g.contains ⟨["a"]⟩ ["super"] = some (.root, []) := rfl
  rw [ImportTarget.target?, hstart]
  exact if_pos hroot

/-! ## The module tree -/

/-- **The module tree.**  Every module but the root has its parent in the graph, and the edges of
declarations are those from the parents.  The root is the only module of its kind, and the inline
modules are those without a file. -/
structure IsModuleTree (g : ModuleGraph) : Prop where
  frozen : g.frozen = true
  root_mem : g.contains .root = true
  parent_mem : ∀ path parent, g.contains path = true → path.parent? = some parent →
    g.contains parent = true
  declares_iff : ∀ e ∈ g.edges,
    e.kind = .declares ↔ g.contains e.target = true ∧ e.target.parent? = some e.source
  declares_mem : ∀ path parent, g.contains path = true → path.parent? = some parent →
    ⟨parent, path, .declares⟩ ∈ g.edges
  root_iff : ∀ m ∈ g.modules, m.kind = .root ↔ m.path = .root
  inline_iff : ∀ m ∈ g.modules, m.file = none ↔ m.kind = .inline

theorem Pending.file_toModule_eq_none_iff (p : Pending t) :
    p.toModule.file = none ↔ p.toModule.kind = .inline := by
  simp [toModule, Placement.isInline]

/-- Only the root is of the kind of a root. -/
theorem Declared.kind_eq_root_iff {segments : List String} {p : Pending t}
    (h : Declared parse (rootOf t file) segments p) :
    p.place.kind = .root ↔ p.place.path = .root := by
  cases h with
  | root => exact iff_of_true rfl rfl
  | child _ _ hf =>
    obtain ⟨d, -, -, hd⟩ := hf.exists_declare
    refine iff_of_false ?_ ?_
    · rw [Pending.kind_of_declare hd]
      split <;> simp
    · rw [hf.path]
      exact ModulePath.child_ne_root _ _

theorem Built.isModuleTree {g : ModuleGraph} (h : Built parse (rootOf t file) g) :
    IsModuleTree g where
  frozen := h.frozen
  root_mem := h.contains_iff.2 ⟨_, .root⟩
  parent_mem := by
    intro path parent hc hp
    obtain ⟨_, p, hd, -⟩ := h.exists_scanned hc hp
    exact h.contains_iff.2 ⟨p, hd⟩
  declares_iff := by
    rintro ⟨source, target, kind⟩ he
    cases kind with
    | declares => exact iff_of_true rfl (h.declares_mem_iff.1 he)
    | imports => exact iff_of_false (by simp) fun hp => (h.imports_mem_iff.1 he).2.2 hp.2
  declares_mem := fun path parent hc hp => h.declares_mem_iff.2 ⟨hc, hp⟩
  root_iff := by
    intro m hm
    obtain ⟨p, hp, rfl⟩ := h.mem_modules.1 hm
    exact hp.kind_eq_root_iff
  inline_iff := by
    intro m hm
    obtain ⟨p, -, rfl⟩ := h.mem_modules.1 hm
    exact p.file_toModule_eq_none_iff

/-- **The declarations of a crate form its module tree.**  If the building runs into something, it
ends with one of the failures that it runs into.  Nothing else is in the way of a graph but a root
that cannot be read: the checks of the graph refuse nothing.  Otherwise there is a frozen graph, and
its declarations are the module tree. -/
theorem graph_declares_module_tree (parse : Source.Parser) (t : FileTree) (unit : String)
    (file : Path) :
    (Obstructed parse t file →
      ∃ f, Meets parse t file f ∧ (graph parse t unit file).result = .error f) ∧
    (¬Obstructed parse t file →
      (∃ reason,
        Source.readText t (t.resolve file) = .error (.unreadable (t.resolve file) reason) ∧
        (graph parse t unit file).result
          = .error (.diagnostic (.unreadable (t.resolve file) reason))) ∨
      ∃ g, (graph parse t unit file).result = .ok g ∧ IsModuleTree g) := by
  refine ⟨exists_graph_eq_error unit, fun hfree => ?_⟩
  rcases graph_cases parse t unit file with ⟨f, hf, -⟩ | hlost | ⟨g, hg⟩
  · exact absurd ⟨f, hf⟩ hfree
  · exact .inl hlost
  · exact .inr ⟨g, hg, (built_of_graph hg).isModuleTree⟩

/-- A single `path` attribute keeps a crate from having a graph, though its root can be read. -/
theorem graph_of_null_override :
    Source.readText (Sample.tree Sample.nullSource) Sample.rootFile = .ok Sample.nullSource ∧
      (graph (Sample.parser Sample.nullSource Sample.nullRoot) (Sample.tree Sample.nullSource)
        "demo" Sample.rootFile).result = .error .nullInPath := by
  refine ⟨?_, Sample.graph_nullRoot⟩
  cbv

end CrateAtlas.Build
