import CrateAtlas.Proofs.Exclusion

/-!
# Calls on a graph

What is true of a graph however it is used.  It is used by calls, one after the other: modules,
edges and diagnostics are added, the graph is frozen, or it is replaced by what is left of it when
modules are left out.  A call may be refused, and the next one may be made all the same.

A graph that is used in this way is changed *in place*, and a call that is refused half-way could
leave it half changed.  `Call.work` therefore spells out the calls as programs on a graph, check by
check and write by write.  `run_work_eq` says that these programs are **all or nothing**: they do
what the operations on graphs say, and a refused one has not written anything.

* `Refused` — **why a call is refused**: the graph is frozen, or one end of an edge is unknown.
  Nothing else is ever refused (`run_work_eq_error_iff`).
* `Change` — **what a call does** (`change_after`): nothing, or one of five things, each under its
  conditions.  The proofs about runs use this list and do not open the operations.
* `WellFormed` — modules and edges are tables with unique keys, and the edges join different modules
  of the graph.  It is a matter of the single changes (`WellFormed.change`), and so of every run
  (`WellFormed.run`).

The hard change is leaving modules out, where modules and edges are filtered apart from each other:
an edge stays only if neither of its ends is cut off, which is the condition for the ends to stay.
-/

set_option autoImplicit false

namespace CrateAtlas

/-! ## Working in place -/

/-- Work on a graph in place.  What was written before a refusal stays written. -/
abbrev InPlace := EStateM GraphFault ModuleGraph

namespace InPlace

/-- Goes on only if the graph is not frozen. -/
def requireOpen : InPlace Unit := do
  let g ← get
  if g.frozen then throw (.frozen g.unit)

/-- Goes on only if there is a module with the given path. -/
def requireModule (path : ModulePath) : InPlace Unit := do
  let g ← get
  unless g.contains path do throw (.unknownModule path g.unit)

/-- Adds a module; the answer is whether it is new. -/
def addModule (m : Module) : InPlace Bool := do
  requireOpen
  if (← get).contains m.path then return false
  modify fun g => { g with modules := g.modules ++ [m] }
  return true

/-- Adds an edge; the answer is whether it is new. -/
def addEdge (e : Edge) : InPlace Bool := do
  requireOpen
  requireModule e.source
  requireModule e.target
  if e.source = e.target then return false
  if (← get).joined e.source e.target then return false
  modify fun g => { g with edges := g.edges ++ [e] }
  return true

/-- Notes a diagnostic. -/
def addDiagnostic (d : Diagnostic) : InPlace Bool := do
  requireOpen
  modify fun g => { g with diagnostics := g.diagnostics ++ [d] }
  return true

variable {α β : Type} {g g' : ModuleGraph}

theorem run_bind_of_ok {x : InPlace α} {k : α → InPlace β} {a : α} (h : x.run g = .ok a g') :
    (x >>= k).run g = (k a).run g' := by
  rw [EStateM.run_bind, h]

theorem run_bind_of_error {x : InPlace α} {k : α → InPlace β} {f : GraphFault}
    (h : x.run g = .error f g') : (x >>= k).run g = .error f g' := by
  rw [EStateM.run_bind, h]

theorem run_get_bind (k : ModuleGraph → InPlace β) : (get >>= k).run g = (k g).run g := rfl

theorem run_requireOpen_of_frozen (hf : g.frozen = true) :
    requireOpen.run g = .error (.frozen g.unit) g := by
  rw [requireOpen, run_get_bind, if_pos hf]
  rfl

theorem run_requireOpen_of_open (ho : g.frozen = false) : requireOpen.run g = .ok () g := by
  rw [requireOpen, run_get_bind, if_neg (by simp [ho])]
  rfl

theorem run_requireModule_of_known {path : ModulePath} (hc : g.contains path = true) :
    (requireModule path).run g = .ok () g := by
  rw [requireModule, run_get_bind, if_pos hc]
  rfl

theorem run_requireModule_of_unknown {path : ModulePath} (hc : g.contains path = false) :
    (requireModule path).run g = .error (.unknownModule path g.unit) g := by
  rw [requireModule, run_get_bind, if_neg (by simp [hc])]
  rfl

end InPlace

/-- Something that is asked of a graph. -/
inductive Call where
  | addModule (m : Module)
  | addEdge (e : Edge)
  | addDiagnostic (d : Diagnostic)
  | freeze
  /-- Goes on with what is left without the modules that satisfy a predicate. -/
  | without (p : ModulePath → Bool)
  /-- Goes on with what is left without the modules that match. -/
  | exclude (patterns : List String) (tests : Bool)

namespace Call

/-- Whether a call adds something to the graph. -/
def adds : Call → Bool
  | .addModule _ | .addEdge _ | .addDiagnostic _ => true
  | .freeze | .without _ | .exclude .. => false

/-- Whether a call is about the graph itself, and does not replace it by another one. -/
def staysWith : Call → Bool
  | .addModule _ | .addEdge _ | .addDiagnostic _ | .freeze => true
  | .without _ | .exclude .. => false

/-- The work that a call asks for; the answer is whether something was added. -/
def work : Call → InPlace Bool
  | .addModule m => InPlace.addModule m
  | .addEdge e => InPlace.addEdge e
  | .addDiagnostic d => InPlace.addDiagnostic d
  | .freeze => do
    modify ModuleGraph.freeze
    return false
  | .without p => do
    modify (ModuleGraph.without · p)
    return false
  | .exclude patterns tests => do
    modify (ModuleGraph.exclude · patterns tests)
    return false

end Call

namespace ModuleGraph

variable {g g' : ModuleGraph} {c : Call}

/-- The graph after a call with the answer, or why the call is refused, by the operations on
graphs. -/
def attempt (g : ModuleGraph) : Call → Except GraphFault (ModuleGraph × Bool)
  | .addModule m => g.addModule m
  | .addEdge e => g.addEdge e
  | .addDiagnostic d => (g.addDiagnostic d).map (·, true)
  | .freeze => .ok (g.freeze, false)
  | .without p => .ok (g.without p, false)
  | .exclude patterns tests => .ok (g.exclude patterns tests, false)

/-! ## What a call does, and why it is refused -/

/-- **Why a call is refused.**  A frozen graph refuses every addition.  One that is not frozen
refuses an edge if one of its ends is unknown, and names the source if both are. -/
inductive Refused (g : ModuleGraph) : Call → GraphFault → Prop
  | frozen {c : Call} (hf : g.frozen = true) (hc : c.adds = true) : Refused g c (.frozen g.unit)
  | source {e : Edge} (ho : g.frozen = false) (hs : g.contains e.source = false) :
      Refused g (.addEdge e) (.unknownModule e.source g.unit)
  | target {e : Edge} (ho : g.frozen = false) (hs : g.contains e.source = true)
      (ht : g.contains e.target = false) : Refused g (.addEdge e) (.unknownModule e.target g.unit)

theorem attempt_of_refused {f : GraphFault} (h : Refused g c f) : g.attempt c = .error f := by
  cases h with
  | frozen hf hc =>
    cases c with
    | addModule m => simp [attempt, addModule, hf]
    | addEdge e => simp [attempt, addEdge, hf]
    | addDiagnostic d => simp [attempt, addDiagnostic, hf, Except.map]
    | freeze => cases hc
    | without p => cases hc
    | exclude patterns tests => cases hc
  | source ho hs => simp [attempt, addEdge, ho, hs]
  | target ho hs ht => simp [attempt, addEdge, ho, hs, ht]

/-- **What a call can do to a graph.** -/
inductive Change (g : ModuleGraph) : ModuleGraph → Prop
  | nothing : Change g g
  | module {m : Module} (ho : g.frozen = false) (hm : g.contains m.path = false) :
      Change g { g with modules := g.modules ++ [m] }
  | edge {e : Edge} (ho : g.frozen = false) (hs : g.contains e.source = true)
      (ht : g.contains e.target = true) (hl : e.source ≠ e.target)
      (hj : g.joined e.source e.target = false) : Change g { g with edges := g.edges ++ [e] }
  | diagnostic {d : Diagnostic} (ho : g.frozen = false) :
      Change g { g with diagnostics := g.diagnostics ++ [d] }
  | freeze : Change g g.freeze
  | without (p : ModulePath → Bool) : Change g (g.without p)

theorem Change.exclude (g : ModuleGraph) (patterns : List String) (tests : Bool) :
    Change g (g.exclude patterns tests) := by
  obtain h | ⟨h, -⟩ := exclude_cases g patterns tests
  · rw [h]
    exact .without _
  · rw [h]
    exact .nothing

/-- What becomes of a call, by its operation and by its work in place: it is refused, and nothing
was written, or both make the same change. -/
inductive Outcome (g : ModuleGraph) (c : Call) : Prop
  | refused {f : GraphFault} (hr : Refused g c f) (hw : c.work.run g = .error f g)
  | done {g' : ModuleGraph} {answer : Bool} (hc : Change g g')
      (ha : g.attempt c = .ok (g', answer)) (hw : c.work.run g = .ok answer g')

namespace Outcome

open InPlace

theorem addModule (g : ModuleGraph) (m : Module) : Outcome g (.addModule m) := by
  cases ho : g.frozen with
  | true =>
    exact .refused (.frozen ho rfl) (run_bind_of_error (run_requireOpen_of_frozen ho))
  | false =>
    have hw : (Call.addModule m).work.run g = _ := run_bind_of_ok (run_requireOpen_of_open ho)
    rw [run_get_bind] at hw
    cases hm : g.contains m.path with
    | true =>
      rw [if_pos hm] at hw
      exact .done .nothing (addModule_of_known ho hm) hw
    | false =>
      rw [if_neg (by simp [hm])] at hw
      exact .done (.module ho hm) (addModule_of_new ho hm) hw

theorem addEdge (g : ModuleGraph) (e : Edge) : Outcome g (.addEdge e) := by
  cases ho : g.frozen with
  | true =>
    exact .refused (.frozen ho rfl) (run_bind_of_error (run_requireOpen_of_frozen ho))
  | false =>
    have hw : (Call.addEdge e).work.run g = _ := run_bind_of_ok (run_requireOpen_of_open ho)
    cases hs : g.contains e.source with
    | false =>
      rw [run_bind_of_error (run_requireModule_of_unknown hs)] at hw
      exact .refused (.source ho hs) hw
    | true =>
      rw [run_bind_of_ok (run_requireModule_of_known hs)] at hw
      cases ht : g.contains e.target with
      | false =>
        rw [run_bind_of_error (run_requireModule_of_unknown ht)] at hw
        exact .refused (.target ho hs ht) hw
      | true =>
        rw [run_bind_of_ok (run_requireModule_of_known ht)] at hw
        by_cases hl : e.source = e.target
        · rw [if_pos hl] at hw
          exact .done .nothing (addEdge_of_loop ho hs ht hl) hw
        · rw [if_neg hl, run_get_bind] at hw
          cases hj : g.joined e.source e.target with
          | true =>
            rw [if_pos hj] at hw
            exact .done .nothing (addEdge_of_joined ho hs ht hj) hw
          | false =>
            rw [if_neg (by simp [hj])] at hw
            exact .done (.edge ho hs ht hl hj) (addEdge_of_new ho hs ht hl hj) hw

theorem addDiagnostic (g : ModuleGraph) (d : Diagnostic) : Outcome g (.addDiagnostic d) := by
  cases ho : g.frozen with
  | true =>
    exact .refused (.frozen ho rfl) (run_bind_of_error (run_requireOpen_of_frozen ho))
  | false =>
    have hw : (Call.addDiagnostic d).work.run g = _ := run_bind_of_ok (run_requireOpen_of_open ho)
    refine .done (.diagnostic ho) ?_ hw
    rw [attempt, addDiagnostic_of_open ho]
    rfl

end Outcome

theorem outcome (g : ModuleGraph) (c : Call) : Outcome g c := by
  cases c with
  | addModule m => exact .addModule g m
  | addEdge e => exact .addEdge g e
  | addDiagnostic d => exact .addDiagnostic g d
  | freeze => exact .done .freeze rfl rfl
  | without p => exact .done (.without p) rfl rfl
  | exclude patterns tests => exact .done (.exclude g patterns tests) rfl rfl

/-- **Calls are all or nothing**: in place they do what the operations say, and a refused one has
not written anything. -/
theorem run_work_eq (g : ModuleGraph) (c : Call) :
    c.work.run g =
      match g.attempt c with
      | .ok (g', answer) => .ok answer g'
      | .error f => .error f g := by
  cases g.outcome c with
  | refused hr hw => rw [hw, attempt_of_refused hr]
  | done _ ha hw => rw [hw, ha]

theorem run_work_eq_error_iff {f : GraphFault} :
    c.work.run g = .error f g' ↔ Refused g c f ∧ g' = g := by
  constructor
  · intro h
    cases g.outcome c with
    | refused hr hw =>
      cases h.symm.trans hw
      exact ⟨hr, rfl⟩
    | done _ _ hw => cases h.symm.trans hw
  · rintro ⟨hr, rfl⟩
    rw [run_work_eq, attempt_of_refused hr]

/-! ## Runs -/

/-- The graph after a call, be it refused or not. -/
def after (g : ModuleGraph) (c : Call) : ModuleGraph :=
  match c.work.run g with
  | .ok _ g' => g'
  | .error _ g' => g'

/-- The graph after a number of calls. -/
def run (g : ModuleGraph) (calls : List Call) : ModuleGraph := calls.foldl after g

theorem run_append (g : ModuleGraph) (calls more : List Call) :
    g.run (calls ++ more) = (g.run calls).run more := List.foldl_append

theorem after_of_refused {f : GraphFault} (h : Refused g c f) : g.after c = g := by
  rw [after, run_work_eq_error_iff.2 ⟨h, rfl⟩]

theorem change_after (g : ModuleGraph) (c : Call) : Change g (g.after c) := by
  cases g.outcome c with
  | refused hr _ =>
    rw [after_of_refused hr]
    exact .nothing
  | done hc _ hw =>
    rw [after, hw]
    exact hc

/-- A call that stays with a frozen graph leaves it as it is. -/
theorem after_of_frozen (hf : g.frozen = true) (hc : c.staysWith = true) : g.after c = g := by
  cases c with
  | addModule m => exact after_of_refused (.frozen hf rfl)
  | addEdge e => exact after_of_refused (.frozen hf rfl)
  | addDiagnostic d => exact after_of_refused (.frozen hf rfl)
  | freeze =>
    show { g with frozen := true } = g
    rw [← hf]
  | without p => cases hc
  | exclude patterns tests => cases hc

theorem run_of_frozen {calls : List Call} (hf : g.frozen = true)
    (hc : ∀ c ∈ calls, c.staysWith = true) : g.run calls = g := by
  induction calls with
  | nil => rfl
  | cons c calls ih =>
    have hafter := after_of_frozen hf (hc c List.mem_cons_self)
    have hrest := ih fun c' hc' => hc c' (List.mem_cons_of_mem _ hc')
    rw [run, List.foldl_cons, hafter]
    exact hrest

/-! ## Well-formed graphs -/

/-- **The shape of a graph**: one module for each path, one edge for each pair of modules, and both
ends of an edge are different modules of the graph. -/
structure WellFormed (g : ModuleGraph) : Prop where
  nodup_paths : g.paths.Nodup
  nodup_ends : (g.edges.map fun e => (e.source, e.target)).Nodup
  source_mem : ∀ e ∈ g.edges, g.contains e.source = true
  target_mem : ∀ e ∈ g.edges, g.contains e.target = true
  source_ne_target : ∀ e ∈ g.edges, e.source ≠ e.target

namespace WellFormed

theorem empty (unit : String) : WellFormed (empty unit) where
  nodup_paths := List.nodup_nil
  nodup_ends := List.nodup_nil
  source_mem := by simp [ModuleGraph.empty]
  target_mem := by simp [ModuleGraph.empty]
  source_ne_target := by simp [ModuleGraph.empty]

theorem addModule {m : Module} (h : WellFormed g) (hm : g.contains m.path = false) :
    WellFormed { g with modules := g.modules ++ [m] } where
  nodup_paths := by
    have hnot : m.path ∉ g.paths := by simp [mem_paths, hm]
    rw [paths, List.map_append, List.map_singleton, ← List.concat_eq_append]
    exact h.nodup_paths.concat hnot
  nodup_ends := h.nodup_ends
  source_mem := fun e he => (contains_of_modules_concat rfl).2 (.inl (h.source_mem e he))
  target_mem := fun e he => (contains_of_modules_concat rfl).2 (.inl (h.target_mem e he))
  source_ne_target := h.source_ne_target

theorem addEdge {e : Edge} (h : WellFormed g) (hs : g.contains e.source = true)
    (ht : g.contains e.target = true) (hl : e.source ≠ e.target)
    (hj : g.joined e.source e.target = false) :
    WellFormed { g with edges := g.edges ++ [e] } where
  nodup_paths := h.nodup_paths
  nodup_ends := by
    have hnot : (e.source, e.target) ∉ g.edges.map fun e => (e.source, e.target) := by
      intro hmem
      obtain ⟨e', he', hends⟩ := List.mem_map.1 hmem
      rw [joined_iff.2 ⟨e', he', Prod.mk.inj hends⟩] at hj
      cases hj
    rw [List.map_append, List.map_singleton, ← List.concat_eq_append]
    exact h.nodup_ends.concat hnot
  source_mem := List.forall_mem_append.2 ⟨h.source_mem, List.forall_mem_singleton.2 hs⟩
  target_mem := List.forall_mem_append.2 ⟨h.target_mem, List.forall_mem_singleton.2 ht⟩
  source_ne_target := List.forall_mem_append.2 ⟨h.source_ne_target, List.forall_mem_singleton.2 hl⟩

/-- An edge that is left has its ends left. -/
theorem without (h : WellFormed g) (p : ModulePath → Bool) : WellFormed (g.without p) where
  nodup_paths := h.nodup_paths.sublist (List.filter_sublist.map Module.path)
  nodup_ends := h.nodup_ends.sublist (List.filter_sublist.map fun e : Edge => (e.source, e.target))
  source_mem := by
    intro e he
    obtain ⟨he, hs, -⟩ := mem_edges_without.1 he
    exact contains_without_iff.2 ⟨h.source_mem e he, hs⟩
  target_mem := by
    intro e he
    obtain ⟨he, -, ht⟩ := mem_edges_without.1 he
    exact contains_without_iff.2 ⟨h.target_mem e he, ht⟩
  source_ne_target := fun e he => h.source_ne_target e (mem_edges_without.1 he).1

/-- **Every change keeps a graph well-formed.** -/
theorem change (h : WellFormed g) (hc : Change g g') : WellFormed g' := by
  cases hc with
  | nothing => exact h
  | module _ hm => exact h.addModule hm
  | edge _ hs ht hl hj => exact h.addEdge hs ht hl hj
  | diagnostic _ =>
    exact ⟨h.nodup_paths, h.nodup_ends, h.source_mem, h.target_mem, h.source_ne_target⟩
  | freeze =>
    exact ⟨h.nodup_paths, h.nodup_ends, h.source_mem, h.target_mem, h.source_ne_target⟩
  | without p => exact h.without p

theorem run (h : WellFormed g) (calls : List Call) : WellFormed (g.run calls) := by
  induction calls generalizing g with
  | nil => exact h
  | cons c calls ih => exact ih (h.change (change_after g c))

end WellFormed

/-- **What holds of every graph that can be reached.**  It is well-formed, so that looking up a path
or a pair finds the one module or edge that has it.  Its calls are all or nothing: a call is refused
if the graph is frozen or an end of an edge is unknown, and for no other reason, and then everything
is as it was.  A frozen graph stays as it is, however many further calls are made on it. -/
theorem run_empty_wellFormed (unit : String) (calls : List Call) :
    WellFormed ((empty unit).run calls) ∧
    (∀ path m, ((empty unit).run calls).module? path = some m ↔
      m ∈ ((empty unit).run calls).modules ∧ m.path = path) ∧
    (∀ source target e, ((empty unit).run calls).edge? source target = some e ↔
      e ∈ ((empty unit).run calls).edges ∧ e.source = source ∧ e.target = target) ∧
    (∀ (c : Call) g' answer, c.work.run ((empty unit).run calls) = .ok answer g' ↔
      ((empty unit).run calls).attempt c = .ok (g', answer)) ∧
    (∀ (c : Call) g' f, c.work.run ((empty unit).run calls) = .error f g' ↔
      Refused ((empty unit).run calls) c f ∧ g' = (empty unit).run calls) ∧
    (((empty unit).run calls).frozen = true → ∀ more : List Call,
      (∀ c ∈ more, c.staysWith = true) →
      (empty unit).run (calls ++ more) = (empty unit).run calls) := by
  have hwf : WellFormed ((empty unit).run calls) := (WellFormed.empty unit).run calls
  refine ⟨hwf, fun path m => module?_eq_some_iff hwf.nodup_paths,
    fun source target e => edge?_eq_some_iff hwf.nodup_ends, fun c g' answer => ?_,
    fun c g' f => run_work_eq_error_iff, fun hf more hmore => ?_⟩
  · rw [run_work_eq]
    cases ((empty unit).run calls).attempt c with
    | error f => simp
    | ok r => simp [Prod.ext_iff, and_comm]
  · rw [run_append]
    exact run_of_frozen hf hmore

end ModuleGraph

end CrateAtlas
