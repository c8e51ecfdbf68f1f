import CrateAtlas.Proofs.DeclaredTree

/-!
# What the discovery finds

The discovery keeps a queue of pending modules and a graph that grows with it.  Here both are
computed from one list, the modules in the order in which they are met:

* `order` — the declared modules, breadth-first.  It is the depth-first walk in another order
  (`order_perm`), so it has exactly the declared modules in it (`mem_order`).
* `snapshot` — the graph and the use trees after some modules were visited and others are queued.
  The graph has the met modules, the edges to them from their parents, and what was wrong with the
  visited ones.
* `discover_eq` — **the discovery takes a snapshot to the snapshot of everything there is**, unless
  a module ends it.  The first such module in the order decides how it ends.

What carries the proof is that the modules below a module are only met when that module is visited
(`Tidy`).  So no declaration of a visited module finds its path taken, except by an earlier
declaration of the same name in the same block.
-/

set_option autoImplicit false

namespace CrateAtlas.Build

variable {t : FileTree}

/-! ## The breadth-first order -/

/-- The modules at or below those in a queue, breadth-first. -/
def order (parse : Source.Parser) : List (Pending t) → List (Pending t)
  | [] => []
  | p :: queue => p :: order parse (queue ++ p.offspring parse)
termination_by queue => (queue.flatMap (Pending.walk parse)).length
decreasing_by
  simp only [List.flatMap_append, List.flatMap_cons, List.length_append, Pending.walk_eq parse p,
    List.length_cons]
  omega

/-- **Breadth-first and depth-first visit the same modules**, in different orders. -/
theorem order_perm (parse : Source.Parser) (queue : List (Pending t)) :
    (order parse queue).Perm (queue.flatMap (Pending.walk parse)) := by
  induction queue using order.induct parse with
  | case1 => simp [order]
  | case2 p queue ih =>
    rw [order, List.flatMap_cons, Pending.walk_eq, List.cons_append]
    refine .cons p (ih.trans ?_)
    rw [List.flatMap_append]
    exact List.perm_append_comm

theorem mem_order {parse : Source.Parser} {root p : Pending t} :
    p ∈ order parse [root] ↔ ∃ segments, Declared parse root segments p := by
  rw [(order_perm parse [root]).mem_iff, List.flatMap_singleton, Pending.mem_walk]

theorem nodup_paths_order (parse : Source.Parser) (root : Pending t) :
    ((order parse [root]).map fun p => p.place.path).Nodup := by
  have h := (order_perm parse [root]).map fun p => p.place.path
  rw [List.flatMap_singleton] at h
  exact h.nodup_iff.2 root.nodup_paths_walk

/-! ## What a visited module leaves behind -/

namespace Pending

/-- The edge to a module from the module that declares it. -/
def edge (p : Pending t) : Edge := ⟨⟨p.place.path.segments.dropLast⟩, p.place.path, .declares⟩

/-- What is wrong with those declarations that are left out. -/
def skipped (p : Pending t) (ds : List Declaration) : List Diagnostic :=
  ds.filterMap fun d =>
    match p.declare d with
    | .error (.diagnostic fault) => some fault
    | _ => none

/-- The first declaration that ends the discovery, by its failure. -/
def obstacle? (p : Pending t) (ds : List Declaration) : Option Failure :=
  ds.findSome? fun d =>
    match p.declare d with
    | .error (.diagnostic _) => none
    | .error f => some f
    | .ok _ => none

/-- What is wrong with a module. -/
def faults (parse : Source.Parser) (p : Pending t) : List Diagnostic :=
  match p.items parse with
  | .error fault => [fault]
  | .ok block => p.skipped block.declarations

/-- The failure with which a module ends the discovery, if it does. -/
def fatal? (parse : Source.Parser) (p : Pending t) : Option Failure :=
  match p.items parse with
  | .error fault =>
    if isUnreadable fault && p.place.path.isRoot then some (.diagnostic fault) else none
  | .ok block => p.obstacle? block.declarations

/-- The use trees of a module whose items were read. -/
def uses? (parse : Source.Parser) (p : Pending t) : Option (ModulePath × List UseTree) :=
  match p.items parse with
  | .error _ => none
  | .ok block => some (p.place.path, block.uses)

@[simp] theorem path_toModule (p : Pending t) : p.toModule.path = p.place.path := rfl

@[simp] theorem target_edge (p : Pending t) : p.edge.target = p.place.path := rfl

theorem edge_of_declare {p c : Pending t} {d : Declaration} (h : p.declare d = .ok c) :
    c.edge = ⟨p.place.path, c.place.path, .declares⟩ := by
  rw [edge, path_of_declare h]
  simp [ModulePath.child]

end Pending

/-! ## The declarations of one module -/

/-- The graph with modules, the edges to them, and diagnostics put at the end. -/
def extend (g : ModuleGraph) (cs : List (Pending t)) (faults : List Diagnostic) : ModuleGraph :=
  { g with
    modules := g.modules ++ cs.map Pending.toModule
    edges := g.edges ++ cs.map Pending.edge
    diagnostics := g.diagnostics ++ faults }

theorem extend_nil (g : ModuleGraph) : extend g ([] : List (Pending t)) [] = g := by
  simp [extend]

theorem extend_extend (g : ModuleGraph) (cs cs' : List (Pending t)) (fs fs' : List Diagnostic) :
    extend (extend g cs fs) cs' fs' = extend g (cs ++ cs') (fs ++ fs') := by
  simp [extend]

/-- A graph into which the declarations of `p` can be settled.  Of the modules directly below `p` it
knows those with the given names, and they are joined to `p`. -/
structure Ready (p : Pending t) (g : ModuleGraph) (names : List String) : Prop where
  unfrozen : g.frozen = false
  known : g.contains p.place.path = true
  below : ∀ name, g.contains (p.place.path.child name) = true ↔ name ∈ names
  joined : ∀ name, g.joined p.place.path (p.place.path.child name) = true ↔ name ∈ names

namespace Ready

variable {p c : Pending t} {g : ModuleGraph} {names : List String} {d : Declaration}

theorem note (h : Ready p g names) (fault : Diagnostic) :
    Ready p (extend g ([] : List (Pending t)) [fault]) names := by
  simp only [extend, List.map_nil, List.append_nil]
  exact ⟨h.unfrozen, h.known, h.below, h.joined⟩

theorem add (h : Ready p g names) (hd : p.declare d = .ok c) :
    Ready p (extend g [c] []) (d.name :: names) := by
  have hm : (extend g [c] []).modules = g.modules ++ [c.toModule] := rfl
  have he : (extend g [c] []).edges = g.edges ++ [c.edge] := rfl
  refine ⟨h.unfrozen, ?_, fun name => ?_, fun name => ?_⟩
  · rw [ModuleGraph.contains_of_modules_concat hm]
    exact .inl h.known
  · rw [ModuleGraph.contains_of_modules_concat hm, h.below, Pending.path_toModule,
      Pending.path_of_declare hd, ModulePath.child_inj, List.mem_cons]
    simp [eq_comm, or_comm]
  · rw [ModuleGraph.joined_of_edges_concat he, h.joined, Pending.edge_of_declare hd,
      Pending.path_of_declare hd, ModulePath.child_inj, List.mem_cons]
    simp [eq_comm, or_comm]

/-- A declaration of a name that is taken changes nothing. -/
theorem addModule_addEdge_of_mem (h : Ready p g names) (hd : p.declare d = .ok c)
    (hn : d.name ∈ names) :
    g.addModule c.toModule = .ok (g, false) ∧
      g.addEdge ⟨p.place.path, c.place.path, .declares⟩ = .ok (g, false) := by
  have hp := Pending.path_of_declare hd
  have hk : g.contains c.place.path = true := by rw [hp, h.below]; exact hn
  refine ⟨ModuleGraph.addModule_of_known h.unfrozen hk, ?_⟩
  refine ModuleGraph.addEdge_of_joined h.unfrozen h.known hk ?_
  show g.joined p.place.path c.place.path = true
  rw [hp, h.joined]
  exact hn

/-- A declaration of a new name adds a module and the edge to it. -/
theorem addModule_addEdge_of_not_mem (h : Ready p g names) (hd : p.declare d = .ok c)
    (hn : d.name ∉ names) :
    ∃ g₁, g.addModule c.toModule = .ok (g₁, true) ∧
      g₁.addEdge ⟨p.place.path, c.place.path, .declares⟩ = .ok (extend g [c] [], true) := by
  have hp := Pending.path_of_declare hd
  have hk : g.contains c.toModule.path = false := by
    rw [Pending.path_toModule, hp, Bool.eq_false_iff, Ne, h.below]
    exact hn
  have hj : g.joined p.place.path c.place.path = false := by
    rw [hp, Bool.eq_false_iff, Ne, h.joined]
    exact hn
  let g₁ : ModuleGraph := { g with modules := g.modules ++ [c.toModule] }
  have hm : g₁.modules = g.modules ++ [c.toModule] := rfl
  have hs : g₁.contains p.place.path = true :=
    (ModuleGraph.contains_of_modules_concat hm).2 (.inl h.known)
  have ht : g₁.contains c.place.path = true :=
    (ModuleGraph.contains_of_modules_concat hm).2 (.inr rfl)
  refine ⟨g₁, ModuleGraph.addModule_of_new h.unfrozen hk, ?_⟩
  rw [ModuleGraph.addEdge_of_new (by exact h.unfrozen) hs ht
    (by rw [hp]; exact (ModulePath.child_ne_self _ _).symm) (by exact hj)]
  simp [g₁, extend, Pending.edge_of_declare hd]

end Ready

/-- The part of the outcome of settling that is about the graph. -/
def settled (p : Pending t) (g : ModuleGraph) (ds : List Declaration) :
    Except Failure (ModuleGraph × List (Pending t)) :=
  (settle p g ds).map fun r => (r.1, r.2.1)

/-- **Settling the declarations of a module** adds one module for each new name, unless one of the
declarations ends the discovery. -/
theorem settled_eq {p : Pending t} {g : ModuleGraph} {names : List String} (h : Ready p g names)
    (ds : List Declaration) :
    settled p g ds =
      match p.obstacle? ds with
      | some f => .error f
      | none => .ok (extend g (p.firstOnes ds names) (p.skipped ds), p.firstOnes ds names) := by
  induction ds generalizing g names with
  | nil => simp [settled, settle, Pending.obstacle?, Pending.firstOnes, Pending.skipped, extend_nil,
      Except.map]
  | cons d ds ih =>
    cases hd : p.declare d with
    | error f =>
      rw [Pending.firstOnes_of_error hd]
      cases f with
      | diagnostic fault =>
        have hs : settled p g (d :: ds)
            = settled p (extend g ([] : List (Pending t)) [fault]) ds := by
          simp only [settled, settle, hd, ModuleGraph.addDiagnostic_of_open h.unfrozen, extend,
            List.map_nil, List.append_nil]
          cases settle p _ ds <;> rfl
        rw [hs, ih (h.note fault), extend_extend]
        simp [Pending.obstacle?, Pending.skipped, hd]
      | _ => simp [settled, settle, hd, Pending.obstacle?, Except.map]
    | ok c =>
      have ho : p.obstacle? (d :: ds) = p.obstacle? ds := by simp [Pending.obstacle?, hd]
      have hf : p.skipped (d :: ds) = p.skipped ds := by simp [Pending.skipped, hd]
      rw [ho, hf]
      -- A path is taken only by an earlier declaration of the same name.
      by_cases hn : d.name ∈ names
      · obtain ⟨hm, he⟩ := h.addModule_addEdge_of_mem hd hn
        have hs : settled p g (d :: ds) = settled p g ds := by
          simp only [settled, settle, hd, hm, he]
          cases settle p g ds <;> rfl
        rw [hs, ih h, Pending.firstOnes_of_mem hd hn]
      · obtain ⟨g₁, hm, he⟩ := h.addModule_addEdge_of_not_mem hd hn
        have hs : settled p g (d :: ds)
            = (settled p (extend g [c] []) ds).map fun r => (r.1, c :: r.2) := by
          simp only [settled, settle, hd, hm, he]
          cases settle p (extend g [c] []) ds <;> rfl
        rw [hs, ih (h.add hd), Pending.firstOnes_of_not_mem hd hn]
        cases p.obstacle? ds with
        | some f => rfl
        | none => simp [Except.map, extend_extend]

/-! ## One module of the queue -/

/-- Visits a module: what is known afterwards, and the modules that are sent to the queue. -/
def visit (parse : Source.Parser) (p : Pending t) (s : Progress) :
    Except Failure (Progress × List (Pending t)) :=
  match p.items parse with
  | .error fault =>
    if isUnreadable fault && p.place.path.isRoot then .error (.diagnostic fault)
    else
      match s.graph.addDiagnostic fault with
      | .error e => .error (.graph e)
      | .ok graph => .ok ({ s with graph }, [])
  | .ok block =>
    match settled p s.graph block.declarations with
    | .error f => .error f
    | .ok (graph, added) => .ok (⟨graph, s.uses ++ [(p.place.path, block.uses)]⟩, added)

/-- **One turn of the discovery** visits the module at the front of the queue, and goes on with the
rest unless the visit ends it. -/
theorem discover_cons (parse : Source.Parser) (p : Pending t) (queue : List (Pending t))
    (s : Progress) :
    (discover parse (p :: queue) s).result =
      match visit parse p s with
      | .error f => .error f
      | .ok (s', added) => (discover parse (queue ++ added) s').result := by
  rw [discover, visit]
  split
  · rename_i fault hi
    simp only [hi]
    split
    · rfl
    · cases s.graph.addDiagnostic fault with
      | error e => rfl
      | ok graph => simp
  · rename_i block hi
    extract_lets opened
    simp only [hi, settled]
    split
    · rename_i hs
      simp [hs, Except.map]
    · rename_i hs
      simp [hs, Except.map]

/-! ## The whole queue -/

/-- What is known of a crate when some modules were visited and others are queued. -/
def snapshot (parse : Source.Parser) (unit : String) (visited queue : List (Pending t)) :
    Progress where
  graph :=
    { unit
      modules := (visited ++ queue).map Pending.toModule
      edges := (visited ++ queue).tail.map Pending.edge
      diagnostics := visited.flatMap (Pending.faults parse)
      frozen := false }
  uses := visited.filterMap (Pending.uses? parse)

/-- Modules that were met in order: no path twice, and everything below a visited module. -/
structure Tidy (visited queue : List (Pending t)) : Prop where
  nodup : ((visited ++ queue).map fun p => p.place.path).Nodup
  parents : ∀ c ∈ visited ++ queue, ∀ path name, c.place.path = path.child name →
    ∃ q ∈ visited, q.place.path = path

namespace Tidy

variable {visited queue : List (Pending t)} {p : Pending t}

/-- Nothing below a queued module has been met. -/
theorem not_below (h : Tidy visited queue) (hp : p ∈ queue) {c : Pending t}
    (hc : c ∈ visited ++ queue) (name : String) : c.place.path ≠ p.place.path.child name := by
  intro heq
  obtain ⟨q, hq, hqp⟩ := h.parents c hc _ name heq
  have hn := h.nodup
  rw [List.map_append, List.nodup_append] at hn
  exact hn.2.2 _ (List.mem_map_of_mem hq) _ (List.mem_map_of_mem hp) hqp

/-- Visiting the first module of the queue keeps the order. -/
theorem visit (parse : Source.Parser) (h : Tidy visited (p :: queue)) :
    Tidy (visited ++ [p]) (queue ++ p.offspring parse) := by
  have happ : visited ++ [p] ++ (queue ++ p.offspring parse)
      = (visited ++ p :: queue) ++ p.offspring parse := by simp
  constructor
  · rw [happ, List.map_append, List.nodup_append]
    refine ⟨h.nodup, p.nodup_paths_offspring parse, ?_⟩
    intro path hpath path' hpath' heq
    obtain ⟨c, hc, rfl⟩ := List.mem_map.1 hpath
    obtain ⟨c', hc', rfl⟩ := List.mem_map.1 hpath'
    obtain ⟨name, hname⟩ := Pending.path_of_mem_offspring hc'
    exact h.not_below List.mem_cons_self hc name (heq.trans hname)
  · rw [happ]
    intro c hc path name hpath
    rcases List.mem_append.1 hc with hc | hc
    · obtain ⟨q, hq, hqp⟩ := h.parents c hc path name hpath
      exact ⟨q, List.mem_append_left _ hq, hqp⟩
    · obtain ⟨name', hname⟩ := Pending.path_of_mem_offspring hc
      have hpp := (ModulePath.child_inj.1 (hname.symm.trans hpath)).1
      exact ⟨p, by simp, hpp⟩

/-- The declarations of the first module of the queue can be settled. -/
theorem ready (parse : Source.Parser) (unit : String) (h : Tidy visited (p :: queue)) :
    Ready p (snapshot parse unit visited (p :: queue)).graph [] := by
  refine ⟨rfl, ?_, fun name => ?_, fun name => ?_⟩
  · exact ModuleGraph.contains_iff.2 ⟨p.toModule, List.mem_map_of_mem (by simp), rfl⟩
  · refine iff_of_false (fun hc => ?_) (by simp)
    obtain ⟨m, hm, hp⟩ := ModuleGraph.contains_iff.1 hc
    obtain ⟨c, hc, rfl⟩ := List.mem_map.1 hm
    exact h.not_below List.mem_cons_self hc name hp
  · refine iff_of_false (fun hj => ?_) (by simp)
    obtain ⟨e, he, -, hp⟩ := ModuleGraph.joined_iff.1 hj
    obtain ⟨c, hc, rfl⟩ := List.mem_map.1 he
    exact h.not_below List.mem_cons_self (List.mem_of_mem_tail hc) name hp

end Tidy

/-- What visiting the first module of the queue adds to a snapshot. -/
theorem snapshot_visit (parse : Source.Parser) (unit : String) (visited queue : List (Pending t))
    (p : Pending t) :
    snapshot parse unit (visited ++ [p]) (queue ++ p.offspring parse) =
      ⟨extend (snapshot parse unit visited (p :: queue)).graph (p.offspring parse) (p.faults parse),
        (snapshot parse unit visited (p :: queue)).uses ++ (p.uses? parse).toList⟩ := by
  have happ : visited ++ [p] ++ (queue ++ p.offspring parse)
      = (visited ++ p :: queue) ++ p.offspring parse := by simp
  have htail : ((visited ++ p :: queue) ++ p.offspring parse).tail
      = (visited ++ p :: queue).tail ++ p.offspring parse :=
    List.tail_append_of_ne_nil (by simp)
  have huses : [p].filterMap (Pending.uses? parse) = (p.uses? parse).toList := by
    cases hu : p.uses? parse <;> simp [hu]
  simp only [snapshot, extend, happ, htail, List.flatMap_append, List.flatMap_singleton,
    List.filterMap_append, huses, List.map_append]

/-- **A visit leads from a snapshot to the next one**, unless the module ends the discovery. -/
theorem visit_snapshot (parse : Source.Parser) (unit : String) {visited queue : List (Pending t)}
    {p : Pending t} (h : Tidy visited (p :: queue)) :
    visit parse p (snapshot parse unit visited (p :: queue)) =
      match p.fatal? parse with
      | some f => .error f
      | none =>
        .ok (snapshot parse unit (visited ++ [p]) (queue ++ p.offspring parse),
          p.offspring parse) := by
  rw [snapshot_visit, visit]
  cases hi : p.items parse with
  | error fault =>
    have hfaults : p.faults parse = [fault] := by rw [Pending.faults, hi]
    have huses : p.uses? parse = none := by rw [Pending.uses?, hi]
    have hfatal : p.fatal? parse =
        if isUnreadable fault && p.place.path.isRoot then some (.diagnostic fault) else none := by
      rw [Pending.fatal?, hi]
    have hopen : (snapshot parse unit visited (p :: queue)).graph.frozen = false := rfl
    simp only [hfatal, hfaults, huses, Pending.offspring_of_error hi]
    cases isUnreadable fault && p.place.path.isRoot with
    | true => rfl
    | false =>
      simp only [Bool.false_eq_true, if_false, ModuleGraph.addDiagnostic_of_open hopen]
      simp [extend]
  | ok block =>
    have hfaults : p.faults parse = p.skipped block.declarations := by rw [Pending.faults, hi]
    have huses : p.uses? parse = some (p.place.path, block.uses) := by rw [Pending.uses?, hi]
    have hfatal : p.fatal? parse = p.obstacle? block.declarations := by rw [Pending.fatal?, hi]
    simp only [hfatal, hfaults, huses, Pending.offspring_of_ok hi,
      settled_eq (h.ready parse unit) block.declarations]
    cases p.obstacle? block.declarations with
    | some f => rfl
    | none => rfl

/-- **What the discovery finds.**  It goes through the queue in breadth-first order.  If no module
ends it, every module is visited in the end; otherwise the first one that does so decides. -/
theorem discover_eq (parse : Source.Parser) (unit : String) {visited queue : List (Pending t)}
    (h : Tidy visited queue) :
    (discover parse queue (snapshot parse unit visited queue)).result =
      match (order parse queue).findSome? (Pending.fatal? parse) with
      | some f => .error f
      | none => .ok (snapshot parse unit (visited ++ order parse queue) []) := by
  induction queue using order.induct parse generalizing visited with
  | case1 => simp [discover, order, Logged.done]
  | case2 p queue ih =>
    have happ : visited ++ order parse (p :: queue)
        = visited ++ [p] ++ order parse (queue ++ p.offspring parse) := by simp [order]
    rw [discover_cons, visit_snapshot parse unit h, happ, order, List.findSome?_cons]
    cases p.fatal? parse with
    | some f => rfl
    | none => exact ih (h.visit parse)

end CrateAtlas.Build
