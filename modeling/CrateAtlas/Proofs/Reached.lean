import CrateAtlas.Proofs.Calls
import CrateAtlas.Proofs.PrunedTree
import CrateAtlas.Proofs.Termination

/-!
# Graphs within reach

A graph is *reached* if calls lead to it from a graph of which nothing is known.  Such a graph is
well-formed (`Reached.wellFormed`), and whatever a call makes of it is reached too
(`Reached.attempt`).

**The graph of a crate is reached** (`reached_graph`): the building uses nothing but calls, turn by
turn of the discovery and import by import.  So is what exclusions leave of it, and that is also a
module tree, however many there are (`Reached.excludeAll`, `IsModuleTree.excludeAll`).
-/

set_option autoImplicit false

namespace CrateAtlas

namespace ModuleGraph

variable {g g' : ModuleGraph}

/-- What is left of a graph after exclusions, each given by its patterns and its flag. -/
def excludeAll (g : ModuleGraph) (steps : List (List String × Bool)) : ModuleGraph :=
  steps.foldl (fun g step => g.exclude step.1 step.2) g

/-- A graph to which calls lead. -/
def Reached (g : ModuleGraph) : Prop := ∃ unit calls, (empty unit).run calls = g

namespace Reached

theorem empty (unit : String) : Reached (empty unit) := ⟨unit, [], rfl⟩

theorem wellFormed (h : Reached g) : WellFormed g := by
  obtain ⟨unit, calls, rfl⟩ := h
  exact (WellFormed.empty unit).run calls

/-- A call leads from one reached graph to the next. -/
theorem attempt (h : Reached g) {c : Call} {answer : Bool}
    (hc : g.attempt c = .ok (g', answer)) : Reached g' := by
  obtain ⟨unit, calls, rfl⟩ := h
  refine ⟨unit, calls ++ [c], ?_⟩
  rw [run_append, run, List.foldl_cons, List.foldl_nil, after, run_work_eq, hc]

theorem addModule (h : Reached g) {m : Module} {isNew : Bool}
    (hm : g.addModule m = .ok (g', isNew)) : Reached g' :=
  h.attempt (c := .addModule m) hm

theorem addEdge (h : Reached g) {e : Edge} {isNew : Bool}
    (he : g.addEdge e = .ok (g', isNew)) : Reached g' :=
  h.attempt (c := .addEdge e) he

theorem addDiagnostic (h : Reached g) {d : Diagnostic} (hd : g.addDiagnostic d = .ok g') :
    Reached g' :=
  h.attempt (c := .addDiagnostic d) (by rw [ModuleGraph.attempt, hd]; rfl)

theorem freeze (h : Reached g) : Reached g.freeze := h.attempt (c := .freeze) rfl

theorem exclude (h : Reached g) (patterns : List String) (tests : Bool) :
    Reached (g.exclude patterns tests) :=
  h.attempt (c := .exclude patterns tests) rfl

/-- What a number of exclusions leave of a reached graph is reached. -/
theorem excludeAll (h : Reached g) (steps : List (List String × Bool)) :
    Reached (g.excludeAll steps) := by
  induction steps generalizing g with
  | nil => exact h
  | cons step steps ih => exact ih (h.exclude step.1 step.2)

end Reached

end ModuleGraph

namespace Build

variable {t : FileTree} {parse : Source.Parser} {g g' : ModuleGraph}

/-! ## The graph of a crate -/

theorem reached_settle {p : Pending t} {ds : List Declaration} {added : List (Pending t)}
    {log : List LogEntry} (hg : g.Reached) (h : settle p g ds = .ok (g', added, log)) :
    g'.Reached := by
  induction ds generalizing g added log with
  | nil =>
    cases h
    exact hg
  | cons d ds ih =>
    obtain ⟨_, _, _, -, hd, hs⟩ | ⟨_, _, _, _, _, _, -, hm, he, hs, -⟩ := settle_cons_cases h
    · exact ih (hg.addDiagnostic hd) hs
    · exact ih ((hg.addModule hm).addEdge he) hs

theorem reached_visit {p : Pending t} {s s' : Progress} {added : List (Pending t)}
    (hg : s.graph.Reached) (h : visit parse p s = .ok (s', added)) : s'.graph.Reached := by
  rw [visit] at h
  split at h
  · split at h
    · cases h
    · split at h
      · cases h
      · rename_i hd
        cases h
        exact hg.addDiagnostic hd
  · split at h
    · cases h
    · rename_i hs
      cases h
      obtain ⟨log, hlog⟩ := settle_of_settled hs
      exact reached_settle hg hlog

theorem reached_turns {n : Nat} {queue queue' : List (Pending t)} {s s' : Progress}
    (hg : s.graph.Reached) (h : turns parse n (queue, s) = .ok (queue', s')) :
    s'.graph.Reached := by
  induction n generalizing queue s with
  | zero =>
    cases h
    exact hg
  | succ n ih =>
    rw [turns] at h
    split at h
    · cases h
    · rename_i ht
      cases queue with
      | nil =>
        cases ht
        exact ih hg h
      | cons p queue =>
        rw [turn] at ht
        split at ht
        · cases ht
        · rename_i hv
          cases ht
          exact ih (reached_visit hg hv) h

theorem reached_discover {queue : List (Pending t)} {s s' : Progress} (hg : s.graph.Reached)
    (h : (discover parse queue s).result = .ok s') : s'.graph.Reached := by
  have hturns : turns parse (weight parse queue) (queue, s) = _ :=
    turns_eq_discover (Nat.le_refl _)
  rw [h] at hturns
  exact reached_turns hg hturns

theorem reached_addImports {source : ModulePath} {targets : List ModulePath} (hg : g.Reached)
    (h : addImports g source targets = .ok g') : g'.Reached := by
  induction targets generalizing g with
  | nil =>
    cases h
    exact hg
  | cons target rest ih =>
    rw [addImports] at h
    split at h
    · cases h
    · rename_i he
      exact ih (hg.addEdge he) h

theorem reached_resolveUses {known : ModulePath → Bool}
    {uses : List (ModulePath × List UseTree)} (hg : g.Reached)
    (h : resolveUses known g uses = .ok g') : g'.Reached := by
  induction uses generalizing g with
  | nil =>
    cases h
    exact hg
  | cons u rest ih =>
    rw [resolveUses] at h
    split at h
    · cases h
    · split at h
      · cases h
      · rename_i hadd
        exact ih (reached_addImports hg hadd) h

theorem reached_finish {s : Progress} (hg : s.graph.Reached) (h : (finish s).result = .ok g') :
    g'.Reached := by
  rw [finish] at h
  split at h
  · cases h
  · rename_i hr
    cases h
    exact (reached_resolveUses hg hr).freeze

/-- **The graph of a crate is reached by calls.** -/
theorem reached_graph {unit : String} {file : Path}
    (h : (graph parse t unit file).result = .ok g) : g.Reached := by
  rw [graph] at h
  split at h
  · cases h
  · dsimp only at h
    split at h
    · cases h
    · rename_i hm
      rw [Logged.result_andThen] at h
      split at h
      · cases h
      · rename_i hd
        have hroot := (ModuleGraph.Reached.empty unit).addModule hm
        exact reached_finish (reached_discover hroot hd) h

/-! ## After exclusions -/

/-- What a number of exclusions leave of a module tree is a module tree. -/
theorem IsModuleTree.excludeAll (h : IsModuleTree g) (steps : List (List String × Bool)) :
    IsModuleTree (g.excludeAll steps) := by
  induction steps generalizing g with
  | nil => exact h
  | cons step steps ih => exact ih (h.exclude step.1 step.2)

end Build

end CrateAtlas
