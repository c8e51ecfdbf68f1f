import CrateAtlas.Proofs.Edges
import CrateAtlas.Proofs.Exclusion

/-!
# Pruning the module tree

What an exclusion does to the graph of a crate.  An exclusion cuts off what lies below *modules of
the graph* that match.  In a module tree everything above a module is a module as well
(`contains_of_isWithin`), so that a module goes **exactly if its own path or one above it matches**
(`isCut_iff_of_contains`), and this is said segment by segment: `alphabet` does not lie below
`alpha`.

What is left is again a module tree (`IsModuleTree.exclude`).  A module that stays has its parent
and the edge from it left, because what is below something cut off is cut off too.
-/

set_option autoImplicit false

namespace CrateAtlas.Build

/-- A path lies within its parent. -/
theorem isWithin_of_parent? {path parent : ModulePath} (h : path.parent? = some parent) :
    path.isWithin parent = true := by
  obtain ⟨name, rfl⟩ := ModulePath.parent?_eq_some_iff.1 h
  exact ModulePath.isWithin_iff.2 (List.prefix_append _ _)

namespace IsModuleTree

variable {g : ModuleGraph} {p : ModulePath → Bool}

/-- **Everything above a module is a module.** -/
theorem contains_of_isWithin (h : IsModuleTree g) {path top : ModulePath}
    (hc : g.contains path = true) (hw : path.isWithin top = true) : g.contains top = true :=
  ModulePath.of_isWithin (P := fun path => g.contains path = true) h.parent_mem hc hw

/-- A module is cut off by what is picked at or above it. -/
theorem isCut_iff_of_contains (h : IsModuleTree g) {path : ModulePath}
    (hc : g.contains path = true) :
    g.isCut p path = true ↔
      ∃ top, top ≠ .root ∧ top.segments <+: path.segments ∧ p top = true := by
  rw [ModuleGraph.isCut_iff]
  constructor
  · rintro ⟨top, -, hr, hp, hw⟩
    exact ⟨top, hr, ModulePath.isWithin_iff.1 hw, hp⟩
  · rintro ⟨top, hr, hw, hp⟩
    have hw := ModulePath.isWithin_iff.2 hw
    exact ⟨top, h.contains_of_isWithin hc hw, hr, hp, hw⟩

/-- **What an exclusion leaves of a module tree is a module tree.** -/
theorem exclude (h : IsModuleTree g) (patterns : List String) (tests : Bool) :
    IsModuleTree (g.exclude patterns tests) where
  frozen := by
    obtain he | ⟨he, -⟩ := ModuleGraph.exclude_cases g patterns tests
    · rw [he]
      rfl
    · rw [he]
      exact h.frozen
  root_mem := ModuleGraph.contains_exclude_iff.2 ⟨h.root_mem, ModuleGraph.isCut_root g _⟩
  parent_mem := by
    intro path parent hc hp
    obtain ⟨hg, hstays⟩ := ModuleGraph.contains_exclude_iff.1 hc
    refine ModuleGraph.contains_exclude_iff.2 ⟨h.parent_mem path parent hg hp, ?_⟩
    exact ModuleGraph.isCut_eq_false_of_isWithin hstays (isWithin_of_parent? hp)
  declares_iff := by
    intro e he
    obtain ⟨hg, -, ht⟩ := ModuleGraph.mem_edges_exclude.1 he
    rw [h.declares_iff e hg, ModuleGraph.contains_exclude_iff]
    exact and_congr_left' (iff_of_eq (by simp [ht]))
  declares_mem := by
    intro path parent hc hp
    obtain ⟨hg, hstays⟩ := ModuleGraph.contains_exclude_iff.1 hc
    have hparent := ModuleGraph.isCut_eq_false_of_isWithin hstays (isWithin_of_parent? hp)
    exact ModuleGraph.mem_edges_exclude.2 ⟨h.declares_mem path parent hg hp, hparent, hstays⟩
  root_iff := fun m hm => h.root_iff m (ModuleGraph.mem_modules_exclude.1 hm).1
  inline_iff := fun m hm => h.inline_iff m (ModuleGraph.mem_modules_exclude.1 hm).1

end IsModuleTree

variable {t : FileTree} {parse : Source.Parser} {file : Path}

/-- Both ends of an edge are modules. -/
theorem Built.contains_ends {g : ModuleGraph} (h : Built parse (rootOf t file) g) {e : Edge}
    (he : e ∈ g.edges) : g.contains e.source = true ∧ g.contains e.target = true := by
  obtain ⟨_, p, hp, -⟩ := h.exists_scanned_source he
  refine ⟨h.contains_iff.2 ⟨p, hp⟩, ?_⟩
  obtain ⟨source, target, kind⟩ := e
  cases kind with
  | declares => exact (h.declares_mem_iff.1 he).1
  | imports =>
    obtain ⟨⟨_, -, _, _, _, _, _, _, ht⟩, -⟩ := h.imports_mem_iff.1 he
    exact ImportTarget.known_of_target? ht

/-- **Exclusion from the graph of a crate.**  A module goes exactly if its path, or one above it
other than the root, matches a pattern or, if asked for, ends in `tests`; an edge goes with its
ends.  What is left is a module tree, in the old order and with the old diagnostics. -/
theorem exclude_prunes_tree {unit : String} {g : ModuleGraph}
    (h : (graph parse t unit file).result = .ok g) (patterns : List String) (tests : Bool) :
    (∀ m, m ∈ (g.exclude patterns tests).modules ↔
      m ∈ g.modules ∧ ∀ top : ModulePath, top ≠ .root → top.segments <+: m.path.segments →
        (∀ pattern ∈ patterns, Text.wildcard pattern top.render = false) ∧
        (tests = true → top.segments.getLast? ≠ some "tests")) ∧
    (g.exclude patterns tests).contains .root = true ∧
    (∀ e, e ∈ (g.exclude patterns tests).edges ↔
      e ∈ g.edges ∧ (g.exclude patterns tests).contains e.source = true ∧
        (g.exclude patterns tests).contains e.target = true) ∧
    IsModuleTree (g.exclude patterns tests) ∧
    (g.exclude patterns tests).modules.Sublist g.modules ∧
    (g.exclude patterns tests).edges.Sublist g.edges ∧
    (g.exclude patterns tests).diagnostics = g.diagnostics ∧
    (g.exclude patterns tests).unit = g.unit := by
  have hb := built_of_graph h
  have htree := hb.isModuleTree
  refine ⟨fun m => ?_, (htree.exclude patterns tests).root_mem, fun e => ?_,
    htree.exclude patterns tests, ModuleGraph.exclude_frame g patterns tests⟩
  · rw [ModuleGraph.mem_modules_exclude]
    refine and_congr_right fun hm => ?_
    have hc : g.contains m.path = true := ModuleGraph.contains_iff.2 ⟨m, hm, rfl⟩
    rw [Bool.eq_false_iff, Ne, htree.isCut_iff_of_contains hc]
    simp only [not_exists, not_and, Bool.not_eq_true, ModuleGraph.isExcluded_eq_false_iff]
  · rw [ModuleGraph.mem_edges_exclude, ModuleGraph.contains_exclude_iff,
      ModuleGraph.contains_exclude_iff]
    refine and_congr_right fun he => ?_
    obtain ⟨hs, ht⟩ := hb.contains_ends he
    simp [hs, ht]

/-- In `mod a { use super::*; }` the inner module goes with the pattern `?`, and stays with `a?` and
without all modules called `tests`. -/
theorem exclude_inner_module :
    ∃ g, (graph (Sample.parser Sample.globSource Sample.globRoot) (Sample.tree Sample.globSource)
        "demo" Sample.rootFile).result = .ok g ∧
      ⟨⟨["a"]⟩, .inline, none⟩ ∈ g.modules ∧
      ⟨⟨["a"]⟩, .inline, none⟩ ∉ (g.exclude ["?"] false).modules ∧
      ⟨⟨["a"]⟩, .inline, none⟩ ∈ (g.exclude ["a?"] true).modules := by
  obtain ⟨g, hg, hb⟩ := Sample.exists_built_globRoot
  have hm : ⟨⟨["a"]⟩, .inline, none⟩ ∈ g.modules :=
    hb.mem_modules.2 ⟨Sample.inner, Sample.declared_inner, rfl⟩
  refine ⟨g, hg, hm, fun hstays => ?_, ?_⟩
  · have htop := (((exclude_prunes_tree hg ["?"] false).1 _).1 hstays).2 ⟨["a"]⟩ (by decide)
      List.prefix_rfl
    have hmatch : Text.wildcard "?" (⟨["a"]⟩ : ModulePath).render = true := by cbv
    cases hmatch.symm.trans (htop.1 "?" List.mem_cons_self)
  · refine ((exclude_prunes_tree hg ["a?"] true).1 _).2 ⟨hm, fun top hr hp => ?_⟩
    obtain ⟨segments⟩ := top
    obtain rfl | rfl : segments = [] ∨ segments = ["a"] := by
      simpa [List.prefix_cons_iff] using hp
    · exact absurd rfl hr
    · refine ⟨fun pattern hpattern => ?_, fun _ => by decide⟩
      obtain rfl := List.mem_singleton.1 hpattern
      cbv

end CrateAtlas.Build
