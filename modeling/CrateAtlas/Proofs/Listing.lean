import Mathlib.Data.List.Sort
import Mathlib.Data.Prod.Lex
import Mathlib.Data.String.Basic
import CrateAtlas.Proofs.Calls

/-!
# Listings in order

A graph keeps its modules and edges in the order in which they were added, but everything that is
written about it lists them *in order*: modules by their written paths, edges by the written paths
of their two ends, and the modules that one module declares or imports by theirs.

Each of these listings is a sorting by a key, and is described in the same two steps.

* It is a rearrangement in which the keys never decrease (`pairwise_sortedModules`,
  `pairwise_sortedEdges`, `pairwise_targetsBy`).
* **It does not depend on the order before**, as long as the keys tell the elements apart
  (`mergeSort_eq_of_perm`).  The keys are texts and not paths, so this is a condition on the graph:
  no two modules are written alike (`DistinctlyWritten`).  Under it, graphs with the same contents
  have the same listings (`SameContents.sortedModules_eq`, `SameContents.sortedEdges_eq`,
  `SameContents.targetsBy_eq`).
-/

set_option autoImplicit false

namespace CrateAtlas

/-! ## Sorting by keys -/

section Keys

variable {α κ : Type} [LinearOrder κ] {key : α → κ} {le : α → α → Bool} {l l' : List α}

theorem pairwise_mergeSort_of_key (hle : ∀ a b, le a b = true ↔ key a ≤ key b) (l : List α) :
    (l.mergeSort le).Pairwise fun a b => key a ≤ key b := by
  have hsorted : (l.mergeSort le).Pairwise fun a b => le a b = true := by
    refine List.pairwise_mergeSort (fun a b c hab hbc => ?_) (fun a b => ?_) l
    · rw [hle] at hab hbc ⊢
      exact hab.trans hbc
    · rw [Bool.or_eq_true, hle, hle]
      exact le_total _ _
  exact hsorted.imp fun h => (hle _ _).1 h

/-- **A listing by keys that tell the elements apart** depends on nothing but the elements. -/
theorem mergeSort_eq_of_perm (hle : ∀ a b, le a b = true ↔ key a ≤ key b) (hp : l.Perm l')
    (hkey : ∀ a ∈ l, ∀ b ∈ l, key a = key b → a = b) : l.mergeSort le = l'.mergeSort le := by
  have hperm : (l.mergeSort le).Perm (l'.mergeSort le) :=
    (List.mergeSort_perm l le).trans (hp.trans (List.mergeSort_perm l' le).symm)
  refine hperm.eq_of_pairwise (fun a b ha hb hab hba => ?_) (pairwise_mergeSort_of_key hle l)
    (pairwise_mergeSort_of_key hle l')
  have hb' : b ∈ l := hp.mem_iff.2 (List.mem_mergeSort.1 hb)
  exact hkey a (List.mem_mergeSort.1 ha) b hb' (le_antisymm hab hba)

end Keys

namespace ModulePath

theorem before_iff {p q : ModulePath} : p.before q = true ↔ p.render < q.render :=
  decide_eq_true_iff

theorem not_before_iff (p q : ModulePath) : (!q.before p) = true ↔ p.render ≤ q.render := by
  rw [Bool.not_eq_true', Bool.eq_false_iff, Ne, before_iff, not_lt]

theorem render_of_ne_nil {p : ModulePath} (h : p.segments ≠ []) :
    p.render = "::".intercalate p.segments := by
  rw [render]
  split
  · rename_i hnil
    exact absurd hnil h
  · rfl

/-- Modules that the same module declares are written alike only if they have the same name. -/
theorem render_child_inj {p : ModulePath} {m n : String} :
    (p.child m).render = (p.child n).render ↔ m = n := by
  rw [render_of_ne_nil (by simp [child]), render_of_ne_nil (by simp [child]), child, child]
  by_cases hp : p.segments = []
  · simp [hp]
  · rw [String.intercalate_append_of_ne_nil hp (by simp),
      String.intercalate_append_of_ne_nil hp (by simp)]
    simp

end ModulePath

namespace ModuleGraph

variable {g g' : ModuleGraph}

/-! ## Modules -/

theorem sortedModules_perm (g : ModuleGraph) : g.sortedModules.Perm g.modules :=
  List.mergeSort_perm _ _

theorem pairwise_sortedModules (g : ModuleGraph) :
    g.sortedModules.Pairwise fun m n => m.path.render ≤ n.path.render :=
  pairwise_mergeSort_of_key (fun m n => m.path.not_before_iff n.path) g.modules

/-! ## Edges -/

/-- The key of an edge: how its ends are written, that of the source first. -/
def edgeKey (e : Edge) : String ×ₗ String := toLex (e.source.render, e.target.render)

theorem edgeKey_eq_iff {e f : Edge} :
    edgeKey e = edgeKey f ↔
      e.source.render = f.source.render ∧ e.target.render = f.target.render := by
  simp [edgeKey]

theorem not_edgeBefore_iff (e f : Edge) : (!edgeBefore f e) = true ↔ edgeKey e ≤ edgeKey f := by
  rw [edgeKey, edgeKey, Prod.Lex.toLex_le_toLex, edgeBefore]
  split
  · rename_i hs
    rw [ModulePath.not_before_iff]
    simp [hs]
  · rename_i hs
    have hne : e.source.render ≠ f.source.render := Ne.symm hs
    rw [ModulePath.not_before_iff, le_iff_lt_or_eq]
    simp [hne]

theorem sortedEdges_perm (g : ModuleGraph) : g.sortedEdges.Perm g.edges :=
  List.mergeSort_perm _ _

theorem pairwise_sortedEdges (g : ModuleGraph) :
    g.sortedEdges.Pairwise fun e f => edgeKey e ≤ edgeKey f :=
  pairwise_mergeSort_of_key not_edgeBefore_iff g.edges

/-! ## Targets -/

variable {kind : EdgeKind} {source target : ModulePath}

theorem mem_targetsBy : target ∈ g.targetsBy kind source ↔ ⟨source, target, kind⟩ ∈ g.edges := by
  simp only [targetsBy, ModulePath.sort, List.mem_mergeSort, List.mem_map, List.mem_filter,
    decide_eq_true_eq]
  constructor
  · rintro ⟨e, ⟨he, rfl, rfl⟩, rfl⟩
    exact he
  · intro he
    exact ⟨_, ⟨he, rfl, rfl⟩, rfl⟩

theorem pairwise_targetsBy (g : ModuleGraph) (kind : EdgeKind) (source : ModulePath) :
    (g.targetsBy kind source).Pairwise fun p q => p.render ≤ q.render :=
  pairwise_mergeSort_of_key ModulePath.not_before_iff _

/-- A module is joined to another one by at most one edge, and so is listed once. -/
theorem WellFormed.nodup_targetsBy (h : WellFormed g) (kind : EdgeKind) (source : ModulePath) :
    (g.targetsBy kind source).Nodup := by
  rw [targetsBy, ModulePath.sort, (List.mergeSort_perm _ _).nodup_iff]
  refine List.Nodup.map_on (fun e he f hf ht => ?_) (h.nodup_ends.of_map.filter _)
  simp only [List.mem_filter, decide_eq_true_eq] at he hf
  obtain ⟨-, hes, hek⟩ := he
  obtain ⟨-, hfs, hfk⟩ := hf
  cases e
  cases f
  simp_all

/-! ## The same contents -/

/-- Two graphs hold the same, in whatever order it was added to them. -/
structure SameContents (g g' : ModuleGraph) : Prop where
  unit : g.unit = g'.unit
  modules : ∀ m, m ∈ g.modules ↔ m ∈ g'.modules
  edges : ∀ e, e ∈ g.edges ↔ e ∈ g'.edges
  diagnostics : g.diagnostics = g'.diagnostics

/-- No two modules of a graph are written alike. -/
def DistinctlyWritten (g : ModuleGraph) : Prop :=
  ∀ p q, g.contains p = true → g.contains q = true → p.render = q.render → p = q

theorem WellFormed.nodup_modules (h : WellFormed g) : g.modules.Nodup := h.nodup_paths.of_map

theorem WellFormed.nodup_edges (h : WellFormed g) : g.edges.Nodup := h.nodup_ends.of_map

namespace SameContents

theorem modules_perm (h : SameContents g g') (hg : WellFormed g) (hg' : WellFormed g') :
    g.modules.Perm g'.modules :=
  (List.perm_ext_iff_of_nodup hg.nodup_modules hg'.nodup_modules).2 h.modules

theorem edges_perm (h : SameContents g g') (hg : WellFormed g) (hg' : WellFormed g') :
    g.edges.Perm g'.edges :=
  (List.perm_ext_iff_of_nodup hg.nodup_edges hg'.nodup_edges).2 h.edges

/-- The modules are listed alike. -/
theorem sortedModules_eq (h : SameContents g g') (hg : WellFormed g) (hg' : WellFormed g')
    (hd : DistinctlyWritten g) : g.sortedModules = g'.sortedModules := by
  refine mergeSort_eq_of_perm (fun m n => m.path.not_before_iff n.path) (h.modules_perm hg hg')
    fun m hm n hn hr => ?_
  have hpath : m.path = n.path :=
    hd _ _ (ModuleGraph.contains_iff.2 ⟨m, hm, rfl⟩) (ModuleGraph.contains_iff.2 ⟨n, hn, rfl⟩) hr
  exact List.inj_on_of_nodup_map hg.nodup_paths hm hn hpath

/-- The edges are listed alike: their ends are modules, and so the keys tell them apart. -/
theorem sortedEdges_eq (h : SameContents g g') (hg : WellFormed g) (hg' : WellFormed g')
    (hd : DistinctlyWritten g) : g.sortedEdges = g'.sortedEdges := by
  refine mergeSort_eq_of_perm not_edgeBefore_iff (h.edges_perm hg hg') fun e he f hf hkey => ?_
  obtain ⟨hs, ht⟩ := edgeKey_eq_iff.1 hkey
  have hsource : e.source = f.source := hd _ _ (hg.source_mem e he) (hg.source_mem f hf) hs
  have htarget : e.target = f.target := hd _ _ (hg.target_mem e he) (hg.target_mem f hf) ht
  exact List.inj_on_of_nodup_map hg.nodup_ends he hf (Prod.ext hsource htarget)

/-- What a module declares or imports is listed alike. -/
theorem targetsBy_eq (h : SameContents g g') (hg : WellFormed g) (hg' : WellFormed g')
    (hd : DistinctlyWritten g) (kind : EdgeKind) (source : ModulePath) :
    g.targetsBy kind source = g'.targetsBy kind source := by
  refine mergeSort_eq_of_perm ModulePath.not_before_iff
    (((h.edges_perm hg hg').filter _).map Edge.target) fun p hp q hq hr => ?_
  have known : ∀ {target}, target ∈ (g.edges.filter fun e => e.source = source ∧ e.kind = kind).map
      Edge.target → g.contains target = true := by
    intro target ht
    obtain ⟨e, he, rfl⟩ := List.mem_map.1 ht
    exact hg.target_mem e (List.mem_of_mem_filter he)
  exact hd p q (known hp) (known hq) hr

end SameContents

end ModuleGraph

end CrateAtlas
