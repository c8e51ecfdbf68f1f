import CrateAtlas.ImportTarget
import CrateAtlas.Log
import CrateAtlas.Placement
import CrateAtlas.Source

/-!
# Building the graph of a crate

Modules are discovered breadth-first from the root of the crate by following `mod` declarations.
The `use` items are resolved when the discovery is over, so that a path may lead to any module of
the crate.

A module whose items are still to be read is *pending*.  It remembers the files loaded on the way
from the root, and a declaration that would load one of them again is circular.  That also bounds
the discovery: below a pending module either fewer files are left to be loaded, or inline bodies are
nested less deeply.  `Pending.visits` lists the modules that a depth-first walk would visit, and
there are always fewer of them for the queue of pending modules.
-/

set_option autoImplicit false

namespace CrateAtlas.Build

/-! ## Pending modules -/

/-- A module whose items are still to be read. -/
structure Pending (t : FileTree) where
  place : Placement
  /-- The files loaded on the way from the root, without the module's own file. -/
  above : List Location
  /-- The body of an inline module; the items of any other module are in its file. -/
  body : Option Block
  fresh : body = none → t.target place.file ∉ above

namespace Pending

variable {t : FileTree}

/-- The files loaded on the way from the root, with the module's own file. -/
def chain (p : Pending t) : List Location :=
  match p.body with
  | some _ => p.above
  | none => t.target p.place.file :: p.above

/-- The scope of the declarations of a module. -/
def scope (p : Pending t) : Scope :=
  ⟨p.place.path, p.place.file, p.place.directory, p.place.isInline⟩

/-- The items of a module. -/
def items (parse : Source.Parser) (p : Pending t) : Except Diagnostic Block :=
  match p.body with
  | some block => .ok block
  | none => Source.readBlock parse t p.place.file

/-- The module of the graph. -/
def toModule (p : Pending t) : Module :=
  ⟨p.place.path, p.place.kind,
    if p.place.isInline then none else some (t.resolve p.place.file)⟩

/-- The root of a crate. -/
def root (t : FileTree) (file : Path) : Pending t where
  place := ⟨.root, file, .root, Placement.ownedDirectory file true⟩
  above := []
  body := none
  fresh := by simp

/-- The module that a declaration adds, or why it does not.  A diagnostic is about the declaration
alone; any other failure ends the discovery. -/
def declare (p : Pending t) (d : Declaration) : Except Failure (Pending t) :=
  match Placement.ofDeclaration t p.scope d.name d.isInline d.override with
  | .error f => .error f
  | .ok place =>
    match d.body with
    | some block => .ok ⟨place, p.chain, some block, by simp⟩
    | none =>
      match t.canonical place.file with
      | .error f => .error f
      | .ok loaded =>
        if h : t.target place.file ∈ p.chain then
          .error (.diagnostic (.circular place.path.render loaded (some p.place.file)))
        else .ok ⟨place, p.chain, none, fun _ => h⟩

/-! ## The measure of the discovery -/

/-- How many files can still be loaded. -/
def filesLeft (t : FileTree) (loaded : List Location) : Nat :=
  t.files.countP fun l => l ∉ loaded

/-- How deeply the inline modules of a pending module are nested; zero if its items are still to be
read. -/
def nesting (p : Pending t) : Nat :=
  match p.body with
  | some block => block.depth + 1
  | none => 0

theorem countP_lt_countP {α : Type} {p q : α → Bool} {xs : List α} {a : α} (mem : a ∈ xs)
    (sub : ∀ x, q x = true → p x = true) (hp : p a = true) (hq : q a = false) :
    xs.countP q < xs.countP p := by
  induction xs with
  | nil => simp at mem
  | cons x xs ih =>
    have le : xs.countP q ≤ xs.countP p := List.countP_mono_left fun y _ => sub y
    rcases List.mem_cons.1 mem with rfl | mem
    · simp [hp, hq]
      omega
    · have lt := ih mem
      rw [List.countP_cons, List.countP_cons]
      by_cases hx : q x = true
      · rw [if_pos hx, if_pos (sub x hx)]
        omega
      · rw [if_neg hx]
        split <;> omega

theorem filesLeft_cons_lt {l : Location} {loaded : List Location} (mem : l ∈ t.files)
    (fresh : l ∉ loaded) : filesLeft t (l :: loaded) < filesLeft t loaded := by
  refine countP_lt_countP mem (fun x hx => ?_) (by simpa using fresh) (by simp)
  simp only [List.mem_cons, not_or, decide_eq_true_eq] at hx ⊢
  exact hx.2

/-- The place of a pending module in the discovery: the files that can still be loaded, and then the
nesting of its inline modules. -/
def rank (p : Pending t) : Nat × Nat := (filesLeft t p.above, p.nesting)

/-- **What a declaration that is followed leads to**: a module at the place of the declaration, with
the files loaded so far; a file of its own is one that can be resolved. -/
theorem declare_eq_ok {p c : Pending t} {d : Declaration} (h : p.declare d = .ok c) :
    Placement.ofDeclaration t p.scope d.name d.isInline d.override = .ok c.place ∧
      c.above = p.chain ∧ c.body = d.body ∧
      (d.body = none → t.canonical c.place.file = .ok (t.resolve c.place.file)) := by
  unfold declare at h
  split at h
  · cases h
  · rename_i place hp
    split at h
    · rename_i block hb
      cases h
      exact ⟨hp, rfl, hb.symm, fun hn => by simp [hb] at hn⟩
    · rename_i hb
      split at h
      · cases h
      · rename_i loaded hl
        split at h
        · cases h
        · cases h
          exact ⟨hp, rfl, hb.symm, fun _ => FileTree.canonical_eq_ok hl ▸ hl⟩

/-- A declared module comes after the module that declares it. -/
theorem rank_lt {parse : Source.Parser} {p c : Pending t} {block : Block} {d : Declaration}
    (items : p.items parse = .ok block) (mem : d ∈ block.declarations)
    (declared : p.declare d = .ok c) :
    Prod.Lex (· < ·) (· < ·) c.rank p.rank := by
  obtain ⟨-, above, body, -⟩ := declare_eq_ok declared
  cases hp : p.body with
  | none =>
    left
    simp only [Pending.items, hp] at items
    simp only [above, chain, hp]
    exact filesLeft_cons_lt (Source.mem_files_of_readBlock items) (p.fresh hp)
  | some own =>
    simp only [Pending.items, hp, Except.ok.injEq] at items
    subst items
    have hr : c.rank = (filesLeft t p.above, c.nesting) := by simp [rank, above, chain, hp]
    rw [hr]
    right
    simp only [nesting, hp, body]
    cases hd : d.body with
    | none => simp
    | some inner =>
      have := Block.depth_lt mem hd
      simp only
      omega

/-- The modules that a depth-first walk from a pending module visits. -/
def visits (parse : Source.Parser) (p : Pending t) : List ModulePath :=
  match _h : p.items parse with
  | .error _ => [p.place.path]
  | .ok block =>
    p.place.path :: block.declarations.attach.flatMap fun ⟨d, _⟩ =>
      match _hd : p.declare d with
      | .error _ => []
      | .ok child => visits parse child
termination_by p.rank
decreasing_by exact rank_lt _h (by assumption) _hd

/-- The modules that a depth-first walk visits below a declaration. -/
def visitsBelow (parse : Source.Parser) (p : Pending t) (d : Declaration) : List ModulePath :=
  match p.declare d with
  | .error _ => []
  | .ok child => visits parse child

theorem visits_of_error {parse : Source.Parser} {p : Pending t} {fault : Diagnostic}
    (h : p.items parse = .error fault) : p.visits parse = [p.place.path] := by
  rw [visits]
  split <;> simp_all

theorem visits_of_ok {parse : Source.Parser} {p : Pending t} {block : Block}
    (h : p.items parse = .ok block) :
    p.visits parse = p.place.path :: block.declarations.flatMap (p.visitsBelow parse) := by
  rw [visits]
  split
  · simp_all
  · rename_i b hb
    obtain rfl : b = block := by simpa [hb] using h
    rw [List.flatMap_def, List.flatMap_def]
    congr 2
    refine Eq.trans (List.map_congr_left ?_) List.attach_map_val
    intro d _
    simp only [visitsBelow]
    split <;> simp_all

end Pending

/-! ## Discovery -/

/-- What is known of a crate while its modules are discovered: the graph, and the use trees of the
modules whose items were read. -/
structure Progress where
  graph : ModuleGraph
  uses : List (ModulePath × List UseTree)

/-- Settles the declarations of a module one by one.  A declaration that leads nowhere is noted; any
other adds an edge and, if its path is new, a module.  The result lists the modules that were
added, and the declarations that were not followed. -/
def settle {t : FileTree} (p : Pending t) (g : ModuleGraph) :
    List Declaration → Except Failure (ModuleGraph × List (Pending t) × List LogEntry)
  | [] => .ok (g, [], [])
  | d :: ds =>
    match p.declare d with
    | .error (.diagnostic fault) =>
      match g.addDiagnostic fault with
      | .error e => .error (.graph e)
      | .ok g =>
        match settle p g ds with
        | .error e => .error e
        | .ok (g, added, log) => .ok (g, added, .skippedDeclaration d.name fault :: log)
    | .error f => .error f
    | .ok child =>
      match g.addModule child.toModule with
      | .error e => .error (.graph e)
      | .ok (g, isNew) =>
        match g.addEdge ⟨p.place.path, child.place.path, .declares⟩ with
        | .error e => .error (.graph e)
        | .ok (g, _) =>
          match settle p g ds with
          | .error e => .error e
          | .ok (g, added, log) => .ok (g, if isNew then child :: added else added, log)

/-- **What settling one more declaration can do**: note a diagnostic, or add a module and an
edge. -/
theorem settle_cons_cases {t : FileTree} {p : Pending t} {g g' : ModuleGraph} {d : Declaration}
    {ds : List Declaration} {added : List (Pending t)} {log : List LogEntry}
    (h : settle p g (d :: ds) = .ok (g', added, log)) :
    (∃ fault g₁ rest, p.declare d = .error (.diagnostic fault) ∧ g.addDiagnostic fault = .ok g₁ ∧
      settle p g₁ ds = .ok (g', added, rest)) ∨
    ∃ child g₁ isNew g₂ isEdge others, p.declare d = .ok child ∧
      g.addModule child.toModule = .ok (g₁, isNew) ∧
      g₁.addEdge ⟨p.place.path, child.place.path, .declares⟩ = .ok (g₂, isEdge) ∧
      settle p g₂ ds = .ok (g', others, log) ∧
      added = if isNew then child :: others else others := by
  rw [settle] at h
  split at h
  · rename_i fault hd
    split at h
    · cases h
    · rename_i g₁ hg
      split at h
      · cases h
      · rename_i hs
        cases h
        exact .inl ⟨fault, g₁, _, hd, hg, hs⟩
  · cases h
  · rename_i child hd
    split at h
    · cases h
    · rename_i g₁ isNew hm
      split at h
      · cases h
      · rename_i g₂ isEdge he
        split at h
        · cases h
        · rename_i others _ hs
          cases h
          exact .inr ⟨child, g₁, isNew, g₂, isEdge, others, hd, hm, he, hs, rfl⟩

/-- The modules that a module adds are no heavier than its declarations. -/
theorem visits_settle_le {t : FileTree} (parse : Source.Parser) {p : Pending t}
    {g g' : ModuleGraph} {ds : List Declaration} {added : List (Pending t)} {log : List LogEntry}
    (h : settle p g ds = .ok (g', added, log)) :
    (added.flatMap (Pending.visits parse)).length ≤
      (ds.flatMap (p.visitsBelow parse)).length := by
  induction ds generalizing g g' added log with
  | nil =>
    simp only [settle, Except.ok.injEq, Prod.mk.injEq] at h
    simp [← h.2.1]
  | cons d ds ih =>
    rw [List.flatMap_cons, List.length_append]
    obtain ⟨_, _, _, -, -, hs⟩ | ⟨child, _, isNew, _, _, others, hd, -, -, hs, rfl⟩ :=
      settle_cons_cases h
    · have := ih hs
      omega
    · have := ih hs
      have hv : p.visitsBelow parse d = child.visits parse := by simp [Pending.visitsBelow, hd]
      cases isNew with
      | false =>
        simp only [Bool.false_eq_true, if_false]
        omega
      | true =>
        simp only [if_true, List.flatMap_cons, List.length_append, hv]
        omega

/-- Whether a diagnostic says that a file cannot be read. -/
def isUnreadable : Diagnostic → Bool
  | .unreadable .. => true
  | _ => false

/-- The entries for the items of a module that were left out: unreadable files are only noted. -/
def skipLog (path : ModulePath) (fault : Diagnostic) : List LogEntry :=
  if isUnreadable fault then [] else [.skippedItems path fault]

/-- Reads the items of the pending modules, in the order of the queue.  Only a root that cannot be
read ends the discovery. -/
def discover {t : FileTree} (parse : Source.Parser) :
    List (Pending t) → Progress → Logged Progress
  | [], s => .done s
  | p :: queue, s =>
    match _h : p.items parse with
    | .error fault =>
      if isUnreadable fault && p.place.path.isRoot then .fail (.diagnostic fault)
      else
        match s.graph.addDiagnostic fault with
        | .error e => .fail (.graph e)
        | .ok graph =>
          (discover parse queue { s with graph }).after (skipLog p.place.path fault)
    | .ok block =>
      let opened := if p.body.isSome then [] else [LogEntry.parsed p.place.file]
      match _hs : settle p s.graph block.declarations with
      | .error f => (Logged.fail f).after opened
      | .ok (graph, added, log) =>
        (discover parse (queue ++ added)
          ⟨graph, s.uses ++ [(p.place.path, block.uses)]⟩).after (opened ++ log)
termination_by queue => (queue.flatMap (Pending.visits parse)).length
decreasing_by
  · simp only [List.flatMap_cons, List.length_append, Pending.visits_of_error _h,
      List.length_singleton]
    omega
  · have := visits_settle_le parse _hs
    simp only [List.flatMap_append, List.flatMap_cons, List.length_append, Pending.visits_of_ok _h,
      List.length_cons]
    omega

/-! ## Imports -/

/-- Adds an edge for each of the targets. -/
def addImports (g : ModuleGraph) (source : ModulePath) :
    List ModulePath → Except GraphFault ModuleGraph
  | [] => .ok g
  | target :: rest =>
    match g.addEdge ⟨source, target, .imports⟩ with
    | .error e => .error e
    | .ok (g, _) => addImports g source rest

/-- Adds the edges for the use trees of all modules, against the modules known at the start. -/
def resolveUses (known : ModulePath → Bool) (g : ModuleGraph) :
    List (ModulePath × List UseTree) → Except Failure ModuleGraph
  | [] => .ok g
  | (source, trees) :: rest =>
    match ImportTarget.targets known source trees with
    | .error f => .error f
    | .ok targets =>
      match addImports g source targets with
      | .error e => .error (.graph e)
      | .ok g => resolveUses known g rest

/-- Ends the building of a graph. -/
def finish (s : Progress) : Logged ModuleGraph :=
  match resolveUses s.graph.contains s.graph s.uses with
  | .error f => .fail f
  | .ok g => ⟨[.built g.summary], .ok g.freeze⟩

/-- The graph of the crate with the given root file. -/
def graph (parse : Source.Parser) (t : FileTree) (unit : String) (rootFile : Path) :
    Logged ModuleGraph :=
  match t.canonical rootFile with
  | .error f => .fail f
  | .ok file =>
    let root := Pending.root t file
    match (ModuleGraph.empty unit).addModule root.toModule with
    | .error e => .fail (.graph e)
    | .ok (g, _) => (discover parse [root] ⟨g, []⟩).andThen finish

end CrateAtlas.Build
