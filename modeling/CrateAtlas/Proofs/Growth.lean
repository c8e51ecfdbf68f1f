import Mathlib.Data.List.Nodup
import CrateAtlas.ModuleGraph

/-!
# How graphs grow

What the three ways of adding something do to a graph that is not frozen.  Each is described once,
case by case, so that the proofs about whole runs never open the definitions again:

* a module is put at the end unless its path is known (`addModule_of_new`, `addModule_of_known`);
* an edge between two known modules is put at the end unless the two are joined already or are the
  same (`addEdge_of_new`, `addEdge_of_joined`, `addEdge_of_loop`);
* a diagnostic is always put at the end (`addDiagnostic_of_open`).

Looking up is membership: `contains_iff` and `module?_eq_some_iff` for modules, `joined_iff` and
`edge?_eq_some_iff` for edges.
-/

set_option autoImplicit false

namespace CrateAtlas

namespace ModulePath

/-- Two modules are the same child only if they are children of the same module. -/
theorem child_inj {p q : ModulePath} {m n : String} : p.child m = q.child n ↔ p = q ∧ m = n := by
  obtain ⟨ps⟩ := p
  obtain ⟨qs⟩ := q
  simp only [child, mk.injEq]
  constructor
  · intro h
    obtain ⟨hs, hn⟩ := List.append_inj' h rfl
    exact ⟨hs, by simpa using hn⟩
  · rintro ⟨rfl, rfl⟩
    rfl

theorem child_ne_root (p : ModulePath) (name : String) : p.child name ≠ root := by
  simp [child, root]

theorem child_ne_self (p : ModulePath) (name : String) : p.child name ≠ p := by
  intro h
  have hl := congrArg (fun q => q.segments.length) h
  simp [child] at hl

@[simp] theorem parent?_child (p : ModulePath) (name : String) :
    (p.child name).parent? = some p := by
  simp [parent?, isRoot, child]

/-- A path is a child exactly of its parent. -/
theorem parent?_eq_some_iff {p q : ModulePath} :
    p.parent? = some q ↔ ∃ name, p = q.child name := by
  constructor
  · intro h
    obtain ⟨segments⟩ := p
    rcases List.eq_nil_or_concat segments with rfl | ⟨init, last, rfl⟩
    · simp [parent?, isRoot] at h
    · have hq : (⟨init⟩ : ModulePath) = q := by simpa [parent?, isRoot] using h
      exact ⟨last, by simp [← hq, child]⟩
  · rintro ⟨name, rfl⟩
    exact parent?_child q name

@[simp] theorem isRoot_iff {p : ModulePath} : p.isRoot = true ↔ p = root := by
  obtain ⟨segments⟩ := p
  simp [isRoot, root]

end ModulePath

namespace ModuleGraph

variable {g : ModuleGraph}

/-! ## Looking up -/

theorem contains_iff {path : ModulePath} :
    g.contains path = true ↔ ∃ m ∈ g.modules, m.path = path := by
  simp [contains, module?]

/-- In a table with unique keys, looking up a key finds the entry that has it. -/
theorem find?_eq_some_iff_of_nodup {α κ : Type} {key : α → κ} {entries : List α} {p : α → Bool}
    {k : κ} {a : α} (hn : (entries.map key).Nodup) (hp : ∀ b, p b = true ↔ key b = k) :
    entries.find? p = some a ↔ a ∈ entries ∧ key a = k := by
  have sound : ∀ {b : α}, entries.find? p = some b → b ∈ entries ∧ key b = k := fun h =>
    ⟨List.mem_of_find?_eq_some h, (hp _).1 (List.find?_some h)⟩
  refine ⟨sound, fun ⟨ha, hk⟩ => ?_⟩
  obtain ⟨b, hf⟩ := Option.isSome_iff_exists.1 (List.find?_isSome.2 ⟨a, ha, (hp a).2 hk⟩)
  obtain ⟨hb, hk'⟩ := sound hf
  rw [hf, List.inj_on_of_nodup_map hn hb ha (hk'.trans hk.symm)]

/-- In a graph with one module for each path, looking up a path finds the module that has it. -/
theorem module?_eq_some_iff (hn : g.paths.Nodup) {path : ModulePath} {m : Module} :
    g.module? path = some m ↔ m ∈ g.modules ∧ m.path = path :=
  find?_eq_some_iff_of_nodup hn fun _ => decide_eq_true_iff

/-- In a graph with one edge for each pair of modules, looking up a pair finds the edge between
the two. -/
theorem edge?_eq_some_iff (hn : (g.edges.map fun e => (e.source, e.target)).Nodup)
    {source target : ModulePath} {e : Edge} :
    g.edge? source target = some e ↔ e ∈ g.edges ∧ e.source = source ∧ e.target = target := by
  have hkey (b : Edge) : decide (b.source = source ∧ b.target = target) = true ↔
      (b.source, b.target) = (source, target) := by simp
  have hfind := find?_eq_some_iff_of_nodup (a := e) hn hkey
  rwa [Prod.mk.injEq] at hfind

/-- Whether an edge leads from one module to another. -/
def joined (g : ModuleGraph) (source target : ModulePath) : Bool :=
  (g.edge? source target).isSome

theorem joined_iff {source target : ModulePath} :
    g.joined source target = true ↔ ∃ e ∈ g.edges, e.source = source ∧ e.target = target := by
  simp [joined, edge?]

/-! ## Adding -/

theorem addModule_of_known {m : Module} (ho : g.frozen = false)
    (hk : g.contains m.path = true) : g.addModule m = .ok (g, false) := by
  simp [addModule, ho, hk]

theorem addModule_of_new {m : Module} (ho : g.frozen = false)
    (hk : g.contains m.path = false) :
    g.addModule m = .ok ({ g with modules := g.modules ++ [m] }, true) := by
  simp [addModule, ho, hk]

theorem addEdge_of_loop {e : Edge} (ho : g.frozen = false)
    (hs : g.contains e.source = true) (ht : g.contains e.target = true)
    (hl : e.source = e.target) : g.addEdge e = .ok (g, false) := by
  rw [addEdge, if_neg (by simp [ho]), if_neg (by simp [hs]), if_neg (by simp [ht]),
    if_pos (.inl hl)]

theorem addEdge_of_joined {e : Edge} (ho : g.frozen = false)
    (hs : g.contains e.source = true) (ht : g.contains e.target = true)
    (hj : g.joined e.source e.target = true) : g.addEdge e = .ok (g, false) := by
  rw [addEdge, if_neg (by simp [ho]), if_neg (by simp [hs]), if_neg (by simp [ht]),
    if_pos (.inr hj)]

theorem addEdge_of_new {e : Edge} (ho : g.frozen = false)
    (hs : g.contains e.source = true) (ht : g.contains e.target = true)
    (hl : e.source ≠ e.target) (hj : g.joined e.source e.target = false) :
    g.addEdge e = .ok ({ g with edges := g.edges ++ [e] }, true) := by
  have hj' : ¬(g.edge? e.source e.target).isSome = true := by simpa [joined] using hj
  rw [addEdge, if_neg (by simp [ho]), if_neg (by simp [hs]), if_neg (by simp [ht]),
    if_neg (by simp [hl, hj'])]

theorem addDiagnostic_of_open {d : Diagnostic} (ho : g.frozen = false) :
    g.addDiagnostic d = .ok { g with diagnostics := g.diagnostics ++ [d] } := by
  simp [addDiagnostic, ho]

/-! ## After adding -/

theorem contains_of_modules_concat {g' : ModuleGraph} {m : Module} {path : ModulePath}
    (h : g'.modules = g.modules ++ [m]) :
    g'.contains path = true ↔ g.contains path = true ∨ m.path = path := by
  rw [contains_iff, contains_iff, h]
  simp only [List.mem_append, List.mem_singleton, or_and_right, exists_or, exists_eq_left]

theorem joined_of_edges_concat {g' : ModuleGraph} {e : Edge} {source target : ModulePath}
    (h : g'.edges = g.edges ++ [e]) :
    g'.joined source target = true ↔
      g.joined source target = true ∨ e.source = source ∧ e.target = target := by
  rw [joined_iff, joined_iff, h]
  simp only [List.mem_append, List.mem_singleton, or_and_right, exists_or, exists_eq_left]

end ModuleGraph

end CrateAtlas
