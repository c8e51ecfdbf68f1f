import CrateAtlas.Export.Document
import CrateAtlas.Export.Mermaid
import CrateAtlas.Proofs.OutlinedTree

/-!
# Texts that do not depend on order

**What is written about a graph depends on what it holds**, and not on the order in which it was
added.  Everything that a text lists is listed in order, and graphs with the same contents have the
same listings if no two of their modules are written alike; so it is left to go through the formats
and see that they use nothing but the listings (`diagram_eq`, `graphObject_eq`, `below_eq`).

An outline is a case of its own, because it is drawn by a recursion that need not end.  It does end
if declarations from the root on do not go round in circles, and then it meets the same entries in
both graphs.
-/

set_option autoImplicit false

namespace CrateAtlas

open ModuleGraph

namespace ModuleGraph

/-- Two reached graphs that hold the same, and in which no two modules are written alike. -/
structure Alike (g g' : ModuleGraph) : Prop where
  reached : g.Reached
  reached' : g'.Reached
  same : SameContents g g'
  distinct : DistinctlyWritten g

end ModuleGraph

variable {g g' : ModuleGraph}

namespace ModuleGraph.Alike

theorem sortedModules_eq (h : Alike g g') : g.sortedModules = g'.sortedModules :=
  h.same.sortedModules_eq h.reached.wellFormed h.reached'.wellFormed h.distinct

theorem sortedEdges_eq (h : Alike g g') : g.sortedEdges = g'.sortedEdges :=
  h.same.sortedEdges_eq h.reached.wellFormed h.reached'.wellFormed h.distinct

theorem targetsBy_eq (h : Alike g g') (kind : EdgeKind) (source : ModulePath) :
    g.targetsBy kind source = g'.targetsBy kind source :=
  h.same.targetsBy_eq h.reached.wellFormed h.reached'.wellFormed h.distinct kind source

theorem diagram_eq (h : Alike g g') (orientation : String) (dashed : Bool) :
    Mermaid.diagram g orientation dashed = Mermaid.diagram g' orientation dashed := by
  simp only [Mermaid.diagram, Mermaid.lines, h.sortedModules_eq, h.sortedEdges_eq]

theorem sectionText_eq (h : Alike g g') (orientation : String) (dashed : Bool) :
    Mermaid.sectionText g orientation dashed = Mermaid.sectionText g' orientation dashed := by
  simp only [Mermaid.sectionText, h.same.unit, h.diagram_eq]

theorem graphObject_eq (h : Alike g g') (t : FileTree) (base : Option Path) :
    Document.graphObject t base g = Document.graphObject t base g' := by
  simp only [Document.graphObject, h.same.unit, h.sortedModules_eq, h.sortedEdges_eq,
    h.same.diagnostics]

theorem below_eq (h : Alike g g') (s : Outline.Strokes) :
    Outline.Entry.below g s = Outline.Entry.below g' s := by
  funext e
  simp only [Outline.Entry.below, children, h.targetsBy_eq]

theorem line_eq (h : Alike g g') (s : Outline.Strokes) :
    Outline.Entry.line g s = Outline.Entry.line g' s := by
  funext e
  simp only [Outline.Entry.line, Outline.label_eq, h.targetsBy_eq]

/-- The declarations of the one graph go round in circles if those of the other one do. -/
theorem acyclic (h : Alike g g') (ha : Acyclic g.children .root) : Acyclic g'.children .root := by
  have hchildren : g.children = g'.children := funext fun path => h.targetsBy_eq .declares path
  rwa [← hchildren]

/-- Both outlines come to an end, with the same lines. -/
theorem exists_entries (h : Alike g g') (ha : Acyclic g.children .root) (s : Outline.Strokes) :
    ∃ entries, Walk (Outline.Entry.below g s) [.top] entries ∧
      Walk (Outline.Entry.below g' s) [.top] entries ∧
      Outline.lines g s = Outline.lines g' s := by
  obtain ⟨entries, hw, hlines⟩ := Outline.exists_entries h.reached.wellFormed ha s
  obtain ⟨entries', hw', hlines'⟩ :=
    Outline.exists_entries h.reached'.wellFormed (h.acyclic ha) s
  have hentries : Walk (Outline.Entry.below g' s) [.top] entries := h.below_eq s ▸ hw
  refine ⟨entries, hw, hentries, ?_⟩
  rw [hlines, hlines', hw'.unique hentries, h.line_eq, h.same.unit]

end ModuleGraph.Alike

/-- Lists that are written alike, element by element, are written alike. -/
theorem map_eq_map_of_forall₂ {α β : Type} {R : α → α → Prop} {f : α → β} {l l' : List α}
    (h : List.Forall₂ R l l') (hf : ∀ a b, R a b → f a = f b) : l.map f = l'.map f := by
  rw [← List.forall₂_eq_eq_eq, List.forall₂_map_left_iff, List.forall₂_map_right_iff]
  exact h.imp hf

/-- **What is written about graphs depends on what they hold.** -/
theorem renderings_canonical {graphs graphs' : List ModuleGraph}
    (h : List.Forall₂ Alike graphs graphs') :
    (List.Forall₂ (fun g g' => ∀ orientation dashed,
      Mermaid.diagram g orientation dashed = Mermaid.diagram g' orientation dashed)
      graphs graphs') ∧
    (∀ orientation dashed,
      Mermaid.markdown graphs orientation dashed = Mermaid.markdown graphs' orientation dashed) ∧
    (∀ t base indent,
      Document.text t base graphs indent = Document.text t base graphs' indent) ∧
    ((∀ g ∈ graphs, Acyclic g.children .root) → ∀ style,
      Outline.text graphs style = Outline.text graphs' style ∧
      List.Forall₂ (fun g g' => ∃ entries,
        Walk (Outline.Entry.below g (Outline.strokes style)) [.top] entries ∧
        Walk (Outline.Entry.below g' (Outline.strokes style)) [.top] entries) graphs graphs') := by
  refine ⟨h.imp fun _ _ hg => hg.diagram_eq, fun orientation dashed => ?_, fun t base indent => ?_,
    fun ha style => ?_⟩
  · rw [Mermaid.markdown, Mermaid.markdown,
      map_eq_map_of_forall₂ h fun _ _ hg => hg.sectionText_eq orientation dashed]
  · rw [Document.text, Document.text, Document.object, Document.object,
      map_eq_map_of_forall₂ h fun _ _ hg => hg.graphObject_eq t base]
  · have hboth := (List.forall₂_and_left graphs graphs').2 ⟨ha, h⟩
    refine ⟨?_, hboth.imp fun g g' hg => ?_⟩
    · rw [Outline.text, Outline.text, map_eq_map_of_forall₂ hboth fun g g' hg => ?_]
      obtain ⟨-, -, -, hlines⟩ := hg.2.exists_entries hg.1 (Outline.strokes style)
      rw [hlines]
    · obtain ⟨entries, hw, hw', -⟩ := hg.2.exists_entries hg.1 (Outline.strokes style)
      exact ⟨entries, hw, hw'⟩

namespace Sample

/-- The calls that make a crate with two modules, one of which imports from the other. -/
def forwards : List Call :=
  [.addModule ⟨.root, .root, some ⟨.top, ["lib.rs"]⟩⟩, .addModule ⟨⟨["a"]⟩, .inline, none⟩,
    .addModule ⟨⟨["b"]⟩, .inline, none⟩, .addEdge ⟨.root, ⟨["a"]⟩, .declares⟩,
    .addEdge ⟨.root, ⟨["b"]⟩, .declares⟩, .addEdge ⟨⟨["b"]⟩, ⟨["a"]⟩, .imports⟩]

/-- The same modules and edges, added in another order. -/
def backwards : List Call :=
  [.addModule ⟨⟨["b"]⟩, .inline, none⟩, .addModule ⟨⟨["a"]⟩, .inline, none⟩,
    .addEdge ⟨⟨["b"]⟩, ⟨["a"]⟩, .imports⟩, .addModule ⟨.root, .root, some ⟨.top, ["lib.rs"]⟩⟩,
    .addEdge ⟨.root, ⟨["b"]⟩, .declares⟩, .addEdge ⟨.root, ⟨["a"]⟩, .declares⟩, .freeze]

theorem alike_forwards_backwards :
    Alike ((empty "demo").run forwards) ((empty "demo").run backwards) where
  reached := ⟨_, _, rfl⟩
  reached' := ⟨_, _, rfl⟩
  same := by
    have hmodules : ((empty "demo").run forwards).modules.Perm
        ((empty "demo").run backwards).modules := by decide
    have hedges : ((empty "demo").run forwards).edges.Perm
        ((empty "demo").run backwards).edges := by decide
    exact ⟨rfl, fun m => hmodules.mem_iff, fun e => hedges.mem_iff, rfl⟩
  distinct := by
    have hpaths : ∀ p ∈ ((empty "demo").run forwards).paths,
        ∀ q ∈ ((empty "demo").run forwards).paths, p.render = q.render → p = q := by decide
    exact fun p q hp hq => hpaths p (mem_paths.2 hp) q (mem_paths.2 hq)

/-- In that crate only the root declares modules, and it is not declared itself. -/
theorem acyclic_forwards : Acyclic ((empty "demo").run forwards).children .root := by
  have hedge : ∀ {p q : ModulePath}, q ∈ ((empty "demo").run forwards).children p →
      p = .root ∧ q ≠ .root := by
    intro p q hq
    have hedges : ∀ e ∈ ((empty "demo").run forwards).edges, e.kind = .declares →
        e.source = .root ∧ e.target ≠ .root := by decide
    exact hedges _ (mem_targetsBy.1 hq) rfl
  intro path _ hcycle
  obtain ⟨_, hfirst, -⟩ := Relation.TransGen.head'_iff.1 hcycle
  obtain ⟨_, -, hlast⟩ := Relation.TransGen.tail'_iff.1 hcycle
  exact (hedge hlast).2 (hedge hfirst).1

end Sample

open Sample in
/-- Both crates have the same diagram, the same document and the same outline. -/
theorem same_texts_of_backwards :
    ((empty "demo").run forwards).modules ≠ ((empty "demo").run backwards).modules ∧
    Mermaid.markdown [(empty "demo").run forwards] "LR" true
      = Mermaid.markdown [(empty "demo").run backwards] "LR" true ∧
    Document.text (.empty []) none [(empty "demo").run forwards] (some 2)
      = Document.text (.empty []) none [(empty "demo").run backwards] (some 2) ∧
    Outline.text [(empty "demo").run forwards] "tree"
      = Outline.text [(empty "demo").run backwards] "tree" := by
  obtain ⟨-, hmarkdown, hdocument, houtline⟩ :=
    renderings_canonical (.cons alike_forwards_backwards .nil)
  refine ⟨by decide, hmarkdown "LR" true, hdocument _ none (some 2), (houtline ?_ "tree").1⟩
  rw [List.forall_mem_singleton]
  exact acyclic_forwards

end CrateAtlas
