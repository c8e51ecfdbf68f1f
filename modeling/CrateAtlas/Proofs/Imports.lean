import CrateAtlas.Build
import CrateAtlas.Proofs.Growth
import CrateAtlas.Proofs.UseItems

/-!
# Edges from imports

The second half of the building: the use trees of all modules are resolved against the modules of
the finished discovery, and each target that is found gives an edge.

`Adds g new es` says what the edges `es` are in comparison with those of `g`: there is one more for
each pair of modules that is `new`, unless it would be a loop or the two were joined before.  Single
edges do that (`adds_addEdge`), it may be repeated (`Adds.trans`), and so the whole pass does it
(`exists_resolveUses`).  Nothing but the edges changes, and nothing is refused: the sources are
modules of the graph, and so are the targets, because a path only ever leads to a known module.
-/

set_option autoImplicit false

namespace CrateAtlas.Build

/-- The edges `es` are those of the graph, and an import for each new pair that was not joined. -/
def Adds (g : ModuleGraph) (new : ModulePath → ModulePath → Prop) (es : List Edge) : Prop :=
  ∀ e, e ∈ es ↔ e ∈ g.edges ∨
    e.kind = .imports ∧ e.source ≠ e.target ∧ g.joined e.source e.target = false ∧
      new e.source e.target

namespace Adds

variable {g : ModuleGraph} {new new' : ModulePath → ModulePath → Prop} {es es' : List Edge}

theorem refl (g : ModuleGraph) : Adds g (fun _ _ => False) g.edges := by
  intro e
  simp

theorem congr (h : Adds g new es) (hn : ∀ s s', new s s' ↔ new' s s') : Adds g new' es := by
  intro e
  rw [h e, hn]

/-- Edges of the graph stay, so modules that were joined stay joined. -/
theorem joined (h : Adds g new es) {s s' : ModulePath} (hj : g.joined s s' = true) :
    { g with edges := es }.joined s s' = true := by
  rw [ModuleGraph.joined_iff] at hj ⊢
  obtain ⟨e, he, hs⟩ := hj
  exact ⟨e, (h e).2 (.inl he), hs⟩

/-- Adding twice is adding both. -/
theorem trans (h : Adds g new es) (h' : Adds { g with edges := es } new' es') :
    Adds g (fun s s' => new s s' ∨ new' s s') es' := by
  intro e
  rw [h' e]
  constructor
  · rintro (he | ⟨hk, hl, hj, hn⟩)
    · rcases (h e).1 he with he | ⟨hk, hl, hj, hn⟩
      · exact .inl he
      · exact .inr ⟨hk, hl, hj, .inl hn⟩
    · refine .inr ⟨hk, hl, ?_, .inr hn⟩
      rw [Bool.eq_false_iff]
      exact fun hg => by simp [h.joined hg] at hj
  · rintro (he | ⟨hk, hl, hj, hn | hn⟩)
    · exact .inl ((h e).2 (.inl he))
    · exact .inl ((h e).2 (.inr ⟨hk, hl, hj, hn⟩))
    · by_cases hj' : { g with edges := es }.joined e.source e.target = false
      · exact .inr ⟨hk, hl, hj', hn⟩
      · rw [Bool.not_eq_false] at hj'
        -- The two were joined in between, and by an import: that edge is the new one.
        obtain ⟨e', he', hs, ht⟩ := ModuleGraph.joined_iff.1 hj'
        rcases (h e').1 he' with hg | ⟨hk', -, -, -⟩
        · have := ModuleGraph.joined_iff.2 ⟨e', hg, hs, ht⟩
          simp [hj] at this
        · obtain ⟨s, s', k⟩ := e
          obtain ⟨s₁, s₁', k₁⟩ := e'
          obtain ⟨rfl, rfl, rfl, rfl⟩ : s₁ = s ∧ s₁' = s' ∧ k = .imports ∧ k₁ = .imports :=
            ⟨hs, ht, hk, hk'⟩
          exact .inl he'

end Adds

variable {g : ModuleGraph}

/-- Adding one import between two known modules. -/
theorem adds_addEdge {source target : ModulePath} (ho : g.frozen = false)
    (hs : g.contains source = true) (ht : g.contains target = true) :
    ∃ es isNew, g.addEdge ⟨source, target, .imports⟩ = .ok ({ g with edges := es }, isNew) ∧
      Adds g (fun s s' => s = source ∧ s' = target) es := by
  by_cases hl : source = target
  · refine ⟨g.edges, false, ModuleGraph.addEdge_of_loop ho hs ht hl, ?_⟩
    refine fun e => ⟨.inl, fun h => h.elim id ?_⟩
    rintro ⟨-, hne, -, rfl, rfl⟩
    exact absurd hl hne
  · cases hj : g.joined source target with
    | true =>
      refine ⟨g.edges, false, ModuleGraph.addEdge_of_joined ho hs ht hj, ?_⟩
      refine fun e => ⟨.inl, fun h => h.elim id ?_⟩
      rintro ⟨-, -, hj', rfl, rfl⟩
      cases hj.symm.trans hj'
    | false =>
      refine ⟨g.edges ++ [⟨source, target, .imports⟩], true,
        ModuleGraph.addEdge_of_new ho hs ht hl hj, ?_⟩
      intro e
      rw [List.mem_append, List.mem_singleton]
      refine or_congr_right ⟨?_, ?_⟩
      · rintro rfl
        exact ⟨rfl, hl, hj, rfl, rfl⟩
      · obtain ⟨s, s', k⟩ := e
        rintro ⟨rfl, -, -, rfl, rfl⟩
        rfl

/-- Adding the imports of one module. -/
theorem exists_addImports {source : ModulePath} {targets : List ModulePath}
    (ho : g.frozen = false) (hs : g.contains source = true)
    (ht : ∀ target ∈ targets, g.contains target = true) :
    ∃ es, addImports g source targets = .ok { g with edges := es } ∧
      Adds g (fun s s' => s = source ∧ s' ∈ targets) es := by
  induction targets generalizing g with
  | nil => exact ⟨g.edges, rfl, (Adds.refl g).congr (by simp)⟩
  | cons target rest ih =>
    obtain ⟨es, isNew, hadd, hes⟩ := adds_addEdge ho hs (ht target List.mem_cons_self)
    obtain ⟨es', hrest, hes'⟩ := ih (g := { g with edges := es }) ho hs fun x hx =>
      ht x (List.mem_cons_of_mem _ hx)
    refine ⟨es', ?_, (hes.trans hes').congr fun s s' => ?_⟩
    · rw [addImports, hadd]
      exact hrest
    · rw [List.mem_cons]
      exact ⟨fun h => h.elim (fun h => ⟨h.1, .inl h.2⟩) (fun h => ⟨h.1, .inr h.2⟩),
        fun h => h.2.imp (⟨h.1, ·⟩) (⟨h.1, ·⟩)⟩

/-- `Imports known uses source target`: the use trees noted for the source lead to the target. -/
def Imports (known : ModulePath → Bool) (uses : List (ModulePath × List UseTree))
    (source target : ModulePath) : Prop :=
  ∃ trees, (source, trees) ∈ uses ∧ ImportTarget.Leads known source trees target

/-- **Resolving the use trees of all modules** gives an edge for each import, and changes nothing
else. -/
theorem exists_resolveUses {known : ModulePath → Bool}
    {uses : List (ModulePath × List UseTree)} (ho : g.frozen = false)
    (hk : ∀ path, known path = true → g.contains path = true)
    (hs : ∀ u ∈ uses, g.contains u.1 = true)
    (hf : ∀ u ∈ uses, ∀ tree ∈ u.2, tree.foreign? = none) :
    ∃ es, resolveUses known g uses = .ok { g with edges := es } ∧
      Adds g (Imports known uses) es := by
  induction uses generalizing g with
  | nil => exact ⟨g.edges, rfl, (Adds.refl g).congr (by simp [Imports])⟩
  | cons u rest ih =>
    obtain ⟨source, trees⟩ := u
    obtain ⟨found, hfound, hmem⟩ :=
      ImportTarget.exists_targets known source (hf (source, trees) List.mem_cons_self)
    have hcontains : ∀ target ∈ found, g.contains target = true := by
      intro target ht
      obtain ⟨_, _, _, _, _, _, h⟩ := (hmem target).1 ht
      exact hk target (ImportTarget.known_of_target? h)
    obtain ⟨es, hadd, hes⟩ := exists_addImports ho (hs _ List.mem_cons_self) hcontains
    obtain ⟨es', hrest, hes'⟩ := ih (g := { g with edges := es }) ho hk
      (fun u hu => hs u (List.mem_cons_of_mem _ hu))
      (fun u hu => hf u (List.mem_cons_of_mem _ hu))
    -- The later edges are described against a graph that has the earlier ones already.
    refine ⟨es', ?_, (hes.trans hes').congr fun s s' => ?_⟩
    · rw [resolveUses, hfound]
      simp only [hadd]
      exact hrest
    · simp only [Imports, List.mem_cons, Prod.mk.injEq, hmem]
      constructor
      · rintro (⟨rfl, h⟩ | ⟨trees', hm, h⟩)
        · exact ⟨trees, .inl ⟨rfl, rfl⟩, h⟩
        · exact ⟨trees', .inr hm, h⟩
      · rintro ⟨trees', ⟨rfl, rfl⟩ | hm, h⟩
        · exact .inl ⟨rfl, h⟩
        · exact .inr ⟨trees', hm, h⟩

/-- The end of the building: the edges of the imports are added, and the graph is frozen. -/
theorem exists_finish {s : Progress} (ho : s.graph.frozen = false)
    (hs : ∀ u ∈ s.uses, s.graph.contains u.1 = true)
    (hf : ∀ u ∈ s.uses, ∀ tree ∈ u.2, tree.foreign? = none) :
    ∃ es, (finish s).result = .ok { s.graph with edges := es, frozen := true } ∧
      Adds s.graph (Imports s.graph.contains s.uses) es := by
  obtain ⟨es, h, hes⟩ := exists_resolveUses ho (fun _ => id) hs hf
  refine ⟨es, ?_, hes⟩
  rw [finish, h]
  rfl

end CrateAtlas.Build
