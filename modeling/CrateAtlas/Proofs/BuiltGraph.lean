import Mathlib
import CrateAtlas.Proofs.Discovery
import CrateAtlas.Proofs.Imports

/-!
# The graph of a crate

What the graph of a crate is, in terms of the declared module tree, and when there is none.

* `Pending.Blocked` — **what a declaration can run into**: it cannot be found out whether one of the
  two files for the module is there, or the path of its file cannot be resolved.
* `Meets` — what the building runs into: the path of the root file cannot be resolved, or one of the
  declarations is blocked.  Then there is no graph, and the failure is one of those met
  (`exists_graph_eq_error`).  Otherwise only a root that cannot be read is in the way of a graph
  (`graph_cases`); in particular the graph never refuses anything that the building adds to it.
* `Built` — what the graph is otherwise (`exists_built`): the declared modules, the edges to them
  from their parents, and those of the imports.
* `Built.declares_mem_iff` and `Built.imports_mem_iff` — which edges there are, path by path.  A
  module is joined to its children before any import is resolved, so no import hides them.
-/

set_option autoImplicit false

namespace CrateAtlas

/-- What is wrong with a file that cannot be read is said of that file. -/
theorem Source.readText_eq_error {t : FileTree} {file : Path} {fault : Diagnostic}
    (h : readText t file = .error fault) : ∃ reason, fault = .unreadable file reason := by
  rw [readText] at h
  split at h
  · cases h
    exact ⟨_, rfl⟩
  · split at h
    · cases h
      exact ⟨_, rfl⟩
    · cases h

/-- A block is unreadable only if its file is. -/
theorem Source.readText_of_readBlock {parse : Parser} {t : FileTree} {file : Path}
    {fault : Diagnostic} (h : readBlock parse t file = .error fault)
    (hu : Build.isUnreadable fault = true) : readText t file = .error fault := by
  rw [readBlock] at h
  split at h
  · rename_i ht
    cases h
    exact ht
  · rw [parseText] at h
    split at h
    · cases h
      cases hu
    · split at h
      · cases h
        cases hu
      · cases h

namespace Build

variable {t : FileTree} {parse : Source.Parser}

/-- The root of the crate with the given root file. -/
abbrev rootOf (t : FileTree) (file : Path) : Pending t := Pending.root t (t.resolve file)

/-! ## Blocks of declared modules -/

/-- The block of the module with a path: the one that is found when the module is visited. -/
def Scanned (parse : Source.Parser) (root : Pending t) (path : ModulePath) (block : Block) : Prop :=
  ∃ p, Declared parse root path.segments p ∧ p.items parse = .ok block

namespace Declared

variable {r p : Pending t} {segments : List String}

/-- The block of the root was obtained if that of any module was. -/
theorem exists_items (h : Declared parse r segments p) {block : Block}
    (hi : p.items parse = .ok block) : ∃ own, r.items parse = .ok own := by
  induction h generalizing block with
  | root => exact ⟨block, hi⟩
  | child _ hi' _ ih => exact ih hi'

/-- What holds of the blocks of source files, and of the bodies of inline modules in a block of
which it holds, holds of the blocks of all modules of a crate. -/
theorem block_induction {P : Block → Prop}
    (hread : ∀ {file block}, Source.readBlock parse t file = .ok block → P block)
    (hbody : ∀ {block body d}, P block → d ∈ block.declarations → d.body = some body → P body)
    (hr : r.body = none) (h : Declared parse r segments p) {block : Block}
    (hi : p.items parse = .ok block) : P block := by
  -- Only a body needs an argument: for a block that was read there is `hread`.
  have of_body {q : Pending t} {own : Block} (hq : q.items parse = .ok own)
      (hb : ∀ body, q.body = some body → P body) : P own := by
    rw [Pending.items] at hq
    split at hq
    · rename_i body hbody
      cases hq
      exact hb _ hbody
    · exact hread hq
  induction h generalizing block with
  | root => exact of_body hi fun body hb => by simp [hr] at hb
  | child _ hi' hf ih =>
    obtain ⟨d, hm, -, hd⟩ := hf.exists_declare
    refine of_body hi fun body hb => hbody (ih hi') hm ?_
    rw [← (Pending.declare_eq_ok hd).2.2.1, hb]

/-- The blocks of the modules of a crate come from source files. -/
theorem fromSource (hr : r.body = none) (h : Declared parse r segments p) {block : Block}
    (hi : p.items parse = .ok block) : block.FromSource :=
  h.block_induction Source.fromSource_of_readBlock (fun hs hd hb => hs.body hd hb) hr hi

variable {file : Path}

theorem path_rootOf (h : Declared parse (rootOf t file) segments p) : p.place.path = ⟨segments⟩ :=
  h.path

/-- Only the root has the path of the root. -/
theorem eq_root (h : Declared parse (rootOf t file) segments p) (hp : p.place.path = .root) :
    p = rootOf t file := by
  obtain rfl : segments = [] := by
    rw [h.path_rootOf] at hp
    exact congrArg ModulePath.segments hp
  exact h.unique .root

end Declared

/-! ## The first half of the building -/

theorem tidy_root (t : FileTree) (file : Path) : Tidy [] [Pending.root t file] where
  nodup := List.nodup_singleton _
  parents := by
    intro c hc path name hpath
    obtain rfl := List.mem_singleton.1 hc
    exact absurd hpath.symm (ModulePath.child_ne_root path name)

/-- The graph of a crate, by the declared modules in breadth-first order. -/
theorem graph_result {file : Path} (unit : String)
    (hfile : t.canonical file = .ok (t.resolve file)) :
    (graph parse t unit file).result =
      match (order parse [rootOf t file]).findSome? (Pending.fatal? parse) with
      | some f => .error f
      | none => (finish (snapshot parse unit (order parse [rootOf t file]) [])).result := by
  have hstart : (ModuleGraph.empty unit).addModule (rootOf t file).toModule
      = .ok ((snapshot parse unit [] [rootOf t file]).graph, true) :=
    ModuleGraph.addModule_of_new rfl rfl
  have hd := discover_eq parse unit (tidy_root t (t.resolve file))
  rw [graph, hfile]
  simp only [hstart, Logged.result_andThen]
  rw [show (⟨(snapshot parse unit [] [rootOf t file]).graph, []⟩ : Progress)
    = snapshot parse unit [] [rootOf t file] from rfl, hd]
  cases (order parse [rootOf t file]).findSome? (Pending.fatal? parse) <;> rfl

theorem graph_of_unresolved {file : Path} {unit : String} {f : Failure}
    (hfile : t.canonical file = .error f) : (graph parse t unit file).result = .error f := by
  rw [graph, hfile]
  rfl

/-! ## When there is no graph -/

/-- **Why a declaration ends the discovery.**  The module is looked for in two files, and it cannot
be found out whether they are there; or there is a file, and its path cannot be resolved. -/
inductive Pending.Blocked (p : Pending t) (d : Declaration) : Failure → Prop
  | direct {fault : AccessFault} (hbody : d.body = none) (hplain : d.override = none)
    (hdirect : t.obstacle? (p.place.directory.join (d.name ++ ".rs")) = some fault) :
    Blocked p d (.blocked fault (p.place.directory.join (d.name ++ ".rs")))
  | nested {fault : AccessFault} (hbody : d.body = none) (hplain : d.override = none)
    (hdirect : t.obstacle? (p.place.directory.join (d.name ++ ".rs")) = none)
    (hnone : t.isFile (p.place.directory.join (d.name ++ ".rs")) = false)
    (hnested : t.obstacle? ((p.place.directory.join d.name).join "mod.rs") = some fault) :
    Blocked p d (.blocked fault ((p.place.directory.join d.name).join "mod.rs"))
  | file {place : Placement} {f : Failure} (hbody : d.body = none)
    (hplace : Placement.ofDeclaration t p.scope d.name d.isInline d.override = .ok place)
    (hfile : t.canonical place.file = .error f) : Blocked p d f

namespace Pending

theorem declare_of_lacks {p : Pending t} {d : Declaration} {f : Failure} (hbody : d.body = none)
    (hplain : d.override = none) (h : Placement.Lacks t p.scope d.name f) :
    p.declare d = .error f := by
  have hinline : d.isInline = false := by rw [Declaration.isInline, hbody]; rfl
  rw [declare, hinline, hplain, h.ofDeclaration_eq]

/-- **A declaration ends the discovery exactly if it is blocked.** -/
theorem blocked_iff {p : Pending t} {d : Declaration} {f : Failure} :
    p.Blocked d f ↔ p.declare d = .error f ∧ f.isFatal = true := by
  constructor
  · intro h
    cases h with
    | direct hbody hplain hdirect =>
      exact ⟨declare_of_lacks hbody hplain (.direct hdirect), rfl⟩
    | nested hbody hplain hdirect hnone hnested =>
      exact ⟨declare_of_lacks hbody hplain (.nested hdirect hnone hnested), rfl⟩
    | file hbody hplace hfile =>
      refine ⟨?_, FileTree.isFatal_of_canonical hfile⟩
      rw [declare, hplace]
      simp only [hbody, hfile]
  · rintro ⟨h, hfatal⟩
    unfold declare at h
    split at h
    · rename_i hplace
      cases h
      obtain ⟨hinline, hplain, hlacks⟩ := Placement.ofDeclaration_eq_error_iff.1 hplace
      have hbody : d.body = none := by simpa [Declaration.isInline] using hinline
      cases hlacks with
      | direct hdirect => exact .direct hbody hplain hdirect
      | nested hdirect hnone hnested => exact .nested hbody hplain hdirect hnone hnested
      | missing => cases hfatal
    · rename_i hplace
      split at h
      · cases h
      · rename_i hbody
        split at h
        · rename_i hfile
          cases h
          exact .file hbody hplace hfile
        · split at h
          · cases h
            cases hfatal
          · cases h

theorem exists_blocked_of_obstacle? {p : Pending t} {ds : List Declaration} {f : Failure}
    (h : p.obstacle? ds = some f) : ∃ d ∈ ds, p.Blocked d f := by
  obtain ⟨d, hm, hd⟩ := List.exists_of_findSome?_eq_some h
  refine ⟨d, hm, blocked_iff.2 ?_⟩
  split at hd
  · cases hd
  · rename_i hne he
    cases hd
    cases f with
    | diagnostic fault => exact absurd rfl (hne fault)
    | _ => exact ⟨he, rfl⟩
  · cases hd

theorem isSome_obstacle? {p : Pending t} {ds : List Declaration} {d : Declaration} {f : Failure}
    (hm : d ∈ ds) (hd : p.Blocked d f) : (p.obstacle? ds).isSome = true := by
  obtain ⟨he, hfatal⟩ := blocked_iff.1 hd
  rw [obstacle?, List.findSome?_isSome_iff]
  refine ⟨d, hm, ?_⟩
  cases f with
  | diagnostic fault => cases hfatal
  | _ => simp [he]

/-- A module that ends the discovery is a root that cannot be read, or declares something that is
blocked. -/
theorem cases_of_fatal? {p : Pending t} {f : Failure} (h : p.fatal? parse = some f) :
    (∃ fault, p.items parse = .error fault ∧ isUnreadable fault = true ∧
        p.place.path = .root ∧ f = .diagnostic fault) ∨
      ∃ block, p.items parse = .ok block ∧ ∃ d ∈ block.declarations, p.Blocked d f := by
  unfold fatal? at h
  split at h
  · rename_i fault hi
    simp only [Option.ite_none_right_eq_some, Option.some.injEq, Bool.and_eq_true,
      ModulePath.isRoot_iff] at h
    obtain ⟨⟨hu, hp⟩, rfl⟩ := h
    exact .inl ⟨fault, hi, hu, hp, rfl⟩
  · rename_i block hi
    exact .inr ⟨block, hi, exists_blocked_of_obstacle? h⟩

end Pending

/-- **What the building of a crate runs into**: the path of the root file cannot be resolved, or a
declaration in the block of one of the modules is blocked. -/
inductive Meets (parse : Source.Parser) (t : FileTree) (file : Path) : Failure → Prop
  | root {f : Failure} (hfile : t.canonical file = .error f) : Meets parse t file f
  | declaration {segments : List String} {p : Pending t} {block : Block} {d : Declaration}
      {f : Failure} (hp : Declared parse (rootOf t file) segments p)
      (hi : p.items parse = .ok block) (hm : d ∈ block.declarations) (hd : p.Blocked d f) :
      Meets parse t file f

/-- The building of a crate runs into something. -/
def Obstructed (parse : Source.Parser) (t : FileTree) (file : Path) : Prop :=
  ∃ f, Meets parse t file f

theorem Meets.isFatal {file : Path} {f : Failure} (h : Meets parse t file f) :
    f.isFatal = true := by
  cases h with
  | root hfile => exact FileTree.isFatal_of_canonical hfile
  | declaration _ _ _ hd => exact (Pending.blocked_iff.1 hd).2

/-- What ends the discovery is met on the way, or the root cannot be read. -/
theorem meets_of_findSome? {file : Path} {f : Failure}
    (h : (order parse [rootOf t file]).findSome? (Pending.fatal? parse) = some f) :
    Meets parse t file f ∨
      ∃ fault, (rootOf t file).items parse = .error fault ∧ isUnreadable fault = true ∧
        f = .diagnostic fault := by
  obtain ⟨p, hm, hf⟩ := List.exists_of_findSome?_eq_some h
  obtain ⟨segments, hp⟩ := mem_order.1 hm
  obtain ⟨fault, hi, hu, hr, rfl⟩ | ⟨block, hi, d, hd, hb⟩ := Pending.cases_of_fatal? hf
  · obtain rfl := hp.eq_root hr
    exact .inr ⟨fault, hi, hu, rfl⟩
  · exact .inl (.declaration hp hi hd hb)

/-! ## The second half of the building -/

/-- **What the graph of a crate is**: the declared modules, the edges to them from their parents,
and an edge for each import between modules that are not joined otherwise. -/
structure Built (parse : Source.Parser) (root : Pending t) (g : ModuleGraph) : Prop where
  frozen : g.frozen = true
  modules : g.modules = (order parse [root]).map Pending.toModule
  edges : Adds { g with edges := (order parse [root]).tail.map Pending.edge }
    (Imports g.contains ((order parse [root]).filterMap (Pending.uses? parse))) g.edges

theorem mem_uses {file : Path} {path : ModulePath} {trees : List UseTree} :
    (path, trees) ∈ (order parse [rootOf t file]).filterMap (Pending.uses? parse) ↔
      ∃ block, Scanned parse (rootOf t file) path block ∧ block.uses = trees := by
  rw [List.mem_filterMap]
  constructor
  · rintro ⟨p, hm, hu⟩
    obtain ⟨segments, hp⟩ := mem_order.1 hm
    rw [Pending.uses?] at hu
    split at hu
    · cases hu
    · rename_i block hi
      cases hu
      exact ⟨block, ⟨p, by rw [hp.path_rootOf]; exact hp, hi⟩, rfl⟩
  · rintro ⟨block, ⟨p, hp, hi⟩, rfl⟩
    refine ⟨p, mem_order.2 ⟨_, hp⟩, ?_⟩
    simp only [Pending.uses?, hi, hp.path_rootOf]

/-- The use trees of a crate can be resolved, whatever they are. -/
theorem exists_built {file : Path} (unit : String)
    (hfile : t.canonical file = .ok (t.resolve file))
    (h : (order parse [rootOf t file]).findSome? (Pending.fatal? parse) = none) :
    ∃ g, (graph parse t unit file).result = .ok g ∧ Built parse (rootOf t file) g := by
  rw [graph_result unit hfile, h]
  have known : ∀ u ∈ (snapshot parse unit (order parse [rootOf t file]) []).uses,
      (snapshot parse unit (order parse [rootOf t file]) []).graph.contains u.1 = true := by
    rintro ⟨path, trees⟩ hu
    obtain ⟨_, ⟨p, hp, -⟩, -⟩ := mem_uses.1 hu
    refine ModuleGraph.contains_iff.2 ⟨p.toModule, ?_, hp.path_rootOf⟩
    exact List.mem_map_of_mem (by rw [List.append_nil]; exact mem_order.2 ⟨_, hp⟩)
  have native : ∀ u ∈ (snapshot parse unit (order parse [rootOf t file]) []).uses,
      ∀ tree ∈ u.2, tree.foreign? = none := by
    rintro ⟨path, trees⟩ hu tree htree
    obtain ⟨block, ⟨p, hp, hi⟩, rfl⟩ := mem_uses.1 hu
    exact (hp.fromSource rfl hi).foreign?_eq_none htree
  obtain ⟨es, hf, hes⟩ := exists_finish rfl known native
  refine ⟨_, hf, rfl, by simp [snapshot], ?_⟩
  simp only [snapshot, List.append_nil] at hes ⊢
  exact hes

/-- If there is a graph, nothing ended the discovery, and the second half gave the graph. -/
theorem graph_eq_ok {file : Path} {unit : String} {g : ModuleGraph}
    (h : (graph parse t unit file).result = .ok g) :
    t.canonical file = .ok (t.resolve file) ∧
      (order parse [rootOf t file]).findSome? (Pending.fatal? parse) = none ∧
      (finish (snapshot parse unit (order parse [rootOf t file]) [])).result = .ok g := by
  cases hfile : t.canonical file with
  | error f =>
    rw [graph_of_unresolved hfile] at h
    cases h
  | ok resolved =>
    obtain rfl := FileTree.canonical_eq_ok hfile
    rw [graph_result unit hfile] at h
    split at h
    · cases h
    · rename_i hf
      exact ⟨rfl, hf, h⟩

/-- The graph of a crate is built as described. -/
theorem built_of_graph {file : Path} {unit : String} {g : ModuleGraph}
    (h : (graph parse t unit file).result = .ok g) : Built parse (rootOf t file) g := by
  obtain ⟨hfile, hf, -⟩ := graph_eq_ok h
  obtain ⟨g', hg', hb⟩ := exists_built unit hfile hf
  cases h.symm.trans hg'
  exact hb

/-! ## How the building ends -/

/-- **How the building can end**: with something that was met, with a root that cannot be read, or
with a graph. -/
theorem graph_cases (parse : Source.Parser) (t : FileTree) (unit : String) (file : Path) :
    (∃ f, Meets parse t file f ∧ (graph parse t unit file).result = .error f) ∨
      (∃ reason,
        Source.readText t (t.resolve file) = .error (.unreadable (t.resolve file) reason) ∧
        (graph parse t unit file).result
          = .error (.diagnostic (.unreadable (t.resolve file) reason))) ∨
      ∃ g, (graph parse t unit file).result = .ok g := by
  cases hfile : t.canonical file with
  | error f => exact .inl ⟨f, .root hfile, graph_of_unresolved hfile⟩
  | ok resolved =>
    obtain rfl := FileTree.canonical_eq_ok hfile
    cases hf : (order parse [rootOf t file]).findSome? (Pending.fatal? parse) with
    | none =>
      obtain ⟨g, hg, -⟩ := exists_built unit hfile hf
      exact .inr (.inr ⟨g, hg⟩)
    | some f =>
      have hg : (graph parse t unit file).result = .error f := by rw [graph_result unit hfile, hf]
      obtain hmeets | ⟨fault, hi, hu, rfl⟩ := meets_of_findSome? hf
      · exact .inl ⟨f, hmeets, hg⟩
      · have ht := Source.readText_of_readBlock hi hu
        obtain ⟨reason, rfl⟩ := Source.readText_eq_error ht
        exact .inr (.inl ⟨reason, ht, hg⟩)

/-- Where something is met, nothing can come of the building. -/
theorem not_ok_of_meets {file : Path} {unit : String} {f : Failure} (h : Meets parse t file f)
    (g : ModuleGraph) : (graph parse t unit file).result ≠ .ok g := by
  intro hg
  obtain ⟨hfile, hf, -⟩ := graph_eq_ok hg
  cases h with
  | root hfile' => cases hfile.symm.trans hfile'
  | declaration hp hi hm hd =>
    have hnone := List.findSome?_eq_none_iff.1 hf _ (mem_order.2 ⟨_, hp⟩)
    have hsome := Pending.isSome_obstacle? hm hd
    simp only [Pending.fatal?, hi] at hnone
    simp [hnone] at hsome

/-- **Where something is met, there is no graph**, and the failure is one of those met. -/
theorem exists_graph_eq_error {file : Path} (unit : String) (h : Obstructed parse t file) :
    ∃ f, Meets parse t file f ∧ (graph parse t unit file).result = .error f := by
  obtain ⟨f, hf⟩ := h
  rcases graph_cases parse t unit file with hmet | ⟨reason, hread, hg⟩ | ⟨g, hg⟩
  · exact hmet
  · exfalso
    cases hf with
    | root hfile =>
      cases (graph_of_unresolved hfile).symm.trans hg
      cases FileTree.isFatal_of_canonical hfile
    | declaration hp hi =>
      -- A root that cannot be read declares nothing.
      obtain ⟨own, hown⟩ := hp.exists_items hi
      simp [Pending.items, Pending.root, Source.readBlock, hread] at hown
  · exact absurd hg (not_ok_of_meets hf g)

theorem not_obstructed_of_graph {file : Path} {unit : String} {g : ModuleGraph}
    (h : (graph parse t unit file).result = .ok g) : ¬Obstructed parse t file :=
  fun ⟨_, hf⟩ => not_ok_of_meets hf g h

/-- A root that ends the discovery does so at once. -/
theorem graph_of_fatal_root {file : Path} (unit : String) {f : Failure}
    (hfile : t.canonical file = .ok (t.resolve file))
    (hf : (rootOf t file).fatal? parse = some f) : (graph parse t unit file).result = .error f := by
  rw [graph_result unit hfile, order, List.findSome?_cons, hf]

/-- A root that cannot be read is reported, and there is no graph. -/
theorem graph_of_unreadable_root {file : Path} (unit : String) {reason : String}
    (hfile : t.canonical file = .ok (t.resolve file))
    (hread : Source.readText t (t.resolve file) = .error (.unreadable (t.resolve file) reason)) :
    (graph parse t unit file).result
      = .error (.diagnostic (.unreadable (t.resolve file) reason)) := by
  have hitems : (rootOf t file).items parse
      = .error (.unreadable (t.resolve file) reason) := by
    show Source.readBlock parse t (t.resolve file) = _
    rw [Source.readBlock, hread]
  have hroot : (rootOf t file).place.path = .root := rfl
  exact graph_of_fatal_root unit hfile (by simp [Pending.fatal?, hitems, isUnreadable, hroot])

namespace Built

variable {file : Path} {g : ModuleGraph}

/-! ## Modules of the graph -/

theorem mem_modules (h : Built parse (rootOf t file) g) {m : Module} :
    m ∈ g.modules ↔ ∃ p, Declared parse (rootOf t file) m.path.segments p ∧ p.toModule = m := by
  rw [h.modules, List.mem_map]
  constructor
  · rintro ⟨p, hp, rfl⟩
    obtain ⟨segments, hs⟩ := mem_order.1 hp
    exact ⟨p, by rw [Pending.path_toModule, hs.path_rootOf]; exact hs, rfl⟩
  · rintro ⟨p, hp, rfl⟩
    exact ⟨p, mem_order.2 ⟨_, hp⟩, rfl⟩

theorem nodup_paths (h : Built parse (rootOf t file) g) : g.paths.Nodup := by
  rw [ModuleGraph.paths, h.modules, List.map_map]
  exact nodup_paths_order parse (rootOf t file)

/-- **The modules of the graph are the declared ones**, each at its own path. -/
theorem module?_eq_some_iff (h : Built parse (rootOf t file) g) {path : ModulePath} {m : Module} :
    g.module? path = some m ↔
      ∃ p, Declared parse (rootOf t file) path.segments p ∧ p.toModule = m := by
  rw [ModuleGraph.module?_eq_some_iff h.nodup_paths, h.mem_modules]
  constructor
  · rintro ⟨hm, rfl⟩
    exact hm
  · rintro ⟨p, hp, rfl⟩
    have hpath : p.toModule.path = path := hp.path_rootOf
    exact ⟨⟨p, hpath ▸ hp, rfl⟩, hpath⟩

theorem contains_iff (h : Built parse (rootOf t file) g) {path : ModulePath} :
    g.contains path = true ↔ ∃ p, Declared parse (rootOf t file) path.segments p := by
  rw [ModuleGraph.contains, Option.isSome_iff_exists]
  constructor
  · rintro ⟨m, hm⟩
    obtain ⟨p, hp, -⟩ := h.module?_eq_some_iff.1 hm
    exact ⟨p, hp⟩
  · rintro ⟨p, hp⟩
    exact ⟨p.toModule, h.module?_eq_some_iff.2 ⟨p, hp, rfl⟩⟩

/-- **One step down the tree**: a module has a child of a name exactly if its block was obtained and
one of the declarations of that name leads somewhere. -/
theorem contains_child_iff (h : Built parse (rootOf t file) g) {path : ModulePath}
    {name : String} :
    g.contains (path.child name) = true ↔
      ∃ p block d c, Declared parse (rootOf t file) path.segments p ∧ p.items parse = .ok block ∧
        d ∈ block.declarations ∧ d.name = name ∧ p.declare d = .ok c := by
  rw [h.contains_iff]
  constructor
  · rintro ⟨c, hd⟩
    generalize hs : (path.child name).segments = segments at hd
    cases hd with
    | root => simp [ModulePath.child] at hs
    | child hd hi hf =>
      obtain ⟨rfl, hn⟩ := List.append_inj' hs rfl
      obtain rfl : name = _ := by simpa using hn
      obtain ⟨d, hm, hn, hdc⟩ := hf.exists_declare
      exact ⟨_, _, d, c, hd, hi, hm, hn, hdc⟩
  · rintro ⟨p, block, d, c, hd, hi, hm, rfl, hdc⟩
    obtain ⟨c', hf⟩ := Pending.exists_firstOf hm hdc
    exact ⟨c', .child hd hi hf⟩

/-- A module with a parent is declared in the block of its parent. -/
theorem exists_scanned (h : Built parse (rootOf t file) g) {path parent : ModulePath}
    (hc : g.contains path = true) (hp : path.parent? = some parent) :
    ∃ block, Scanned parse (rootOf t file) parent block := by
  obtain ⟨name, rfl⟩ := ModulePath.parent?_eq_some_iff.1 hp
  obtain ⟨p, block, _, _, hd, hi, -⟩ := h.contains_child_iff.1 hc
  exact ⟨block, p, hd, hi⟩

/-! ## Edges of the graph -/

/-- The edges of the first half: one for each module with a parent. -/
theorem mem_edges_order {e : Edge} :
    e ∈ (order parse [rootOf t file]).tail.map Pending.edge ↔
      e.kind = .declares ∧ e.target.parent? = some e.source ∧
        ∃ p, Declared parse (rootOf t file) e.target.segments p := by
  have hcons : order parse [rootOf t file]
      = rootOf t file :: (order parse [rootOf t file]).tail := by
    rw [order, List.tail_cons]
  have hnodup := nodup_paths_order parse (rootOf t file)
  rw [hcons, List.map_cons, List.nodup_cons] at hnodup
  rw [List.mem_map]
  constructor
  · rintro ⟨p, hm, rfl⟩
    obtain ⟨segments, hp⟩ := mem_order.1 (List.mem_of_mem_tail hm)
    have hpath := hp.path_rootOf
    have hne : p.place.path ≠ .root := fun hr =>
      hnodup.1 (List.mem_map.2 ⟨p, hm, hr⟩)
    refine ⟨rfl, ?_, p, by rw [Pending.target_edge, hpath]; exact hp⟩
    rw [Pending.target_edge, ModulePath.parent?, if_neg (by simpa using hne)]
    rfl
  · obtain ⟨source, target, kind⟩ := e
    rintro ⟨rfl, hparent, p, hp⟩
    obtain ⟨name, rfl⟩ : ∃ name, target = source.child name :=
      ModulePath.parent?_eq_some_iff.1 hparent
    have hpath : p.place.path = source.child name := hp.path_rootOf
    refine ⟨p, ?_, ?_⟩
    · have hm := mem_order.2 ⟨_, hp⟩
      rw [hcons, List.mem_cons] at hm
      refine hm.resolve_left fun hr => ?_
      exact ModulePath.child_ne_root source name (hpath.symm.trans (hr ▸ rfl))
    · simp [Pending.edge, hpath, ModulePath.child]

theorem joined_order {source target : ModulePath} (h : Built parse (rootOf t file) g) :
    { g with edges := (order parse [rootOf t file]).tail.map Pending.edge }.joined source target
        = true ↔
      target.parent? = some source ∧ g.contains target = true := by
  rw [ModuleGraph.joined_iff, h.contains_iff]
  constructor
  · rintro ⟨e, he, rfl, rfl⟩
    exact (mem_edges_order.1 he).2
  · intro hp
    exact ⟨⟨source, target, .declares⟩, mem_edges_order.2 ⟨rfl, hp⟩, rfl, rfl⟩

/-- **Which modules a module declares**: its children. -/
theorem declares_mem_iff (h : Built parse (rootOf t file) g) {source target : ModulePath} :
    (⟨source, target, .declares⟩ : Edge) ∈ g.edges ↔
      g.contains target = true ∧ target.parent? = some source := by
  rw [h.edges, h.contains_iff]
  constructor
  · rintro (he | ⟨hk, -⟩)
    · exact (mem_edges_order.1 he).2.symm
    · cases hk
  · rintro ⟨hc, hp⟩
    exact .inl (mem_edges_order.2 ⟨rfl, hp, hc⟩)

/-- **Which modules a module imports**: those that its use trees lead to, itself and its children
apart. -/
theorem imports_mem_iff (h : Built parse (rootOf t file) g) {source target : ModulePath} :
    (⟨source, target, .imports⟩ : Edge) ∈ g.edges ↔
      (∃ block, Scanned parse (rootOf t file) source block ∧
        ImportTarget.Leads g.contains source block.uses target) ∧
      target ≠ source ∧ target.parent? ≠ some source := by
  rw [h.edges]
  constructor
  · rintro (he | ⟨-, hne, hj, trees, hu, hl⟩)
    · cases (mem_edges_order.1 he).1
    · obtain ⟨block, hs, rfl⟩ := mem_uses.1 hu
      refine ⟨⟨block, hs, hl⟩, Ne.symm hne, fun hp => ?_⟩
      obtain ⟨_, _, _, _, _, _, ht⟩ := hl
      rw [h.joined_order.2 ⟨hp, ImportTarget.known_of_target? ht⟩] at hj
      cases hj
  · rintro ⟨⟨block, hs, hl⟩, hne, hp⟩
    refine .inr ⟨rfl, Ne.symm hne, ?_, block.uses, mem_uses.2 ⟨block, hs, rfl⟩, hl⟩
    rw [Bool.eq_false_iff, Ne, h.joined_order]
    exact fun hj => hp hj.1

/-- An edge starts at a module whose block was obtained. -/
theorem exists_scanned_source (h : Built parse (rootOf t file) g) {e : Edge} (he : e ∈ g.edges) :
    ∃ block, Scanned parse (rootOf t file) e.source block := by
  obtain ⟨source, target, kind⟩ := e
  cases kind with
  | declares =>
    obtain ⟨hc, hp⟩ := h.declares_mem_iff.1 he
    exact h.exists_scanned hc hp
  | imports =>
    obtain ⟨⟨block, hs, -⟩, -⟩ := h.imports_mem_iff.1 he
    exact ⟨block, hs⟩

end Built

/-! ## Crates whose modules are known

Where it is known what becomes of each declaration, the discovery can be followed module by
module. -/

/-- **What the declarations of a module yield**, after the given names: one is skipped with a
diagnostic, one repeats a name, and one is the first of its name. -/
inductive Pending.Yields (p : Pending t) :
    List Declaration → List String → List (Pending t) → Prop
  | nil {names : List String} : Yields p [] names []
  | skipped {d : Declaration} {ds : List Declaration} {names : List String}
      {children : List (Pending t)} {fault : Diagnostic}
      (hd : p.declare d = .error (.diagnostic fault)) (hrest : Yields p ds names children) :
      Yields p (d :: ds) names children
  | repeated {c : Pending t} {d : Declaration} {ds : List Declaration} {names : List String}
      {children : List (Pending t)} (hd : p.declare d = .ok c) (hn : d.name ∈ names)
      (hrest : Yields p ds names children) : Yields p (d :: ds) names children
  | first {c : Pending t} {d : Declaration} {ds : List Declaration} {names : List String}
      {children : List (Pending t)} (hd : p.declare d = .ok c) (hn : d.name ∉ names)
      (hrest : Yields p ds (d.name :: names) children) :
      Yields p (d :: ds) names (c :: children)

namespace Pending.Yields

variable {p : Pending t} {ds : List Declaration} {names : List String}
  {children : List (Pending t)}

theorem firstOnes_eq (h : p.Yields ds names children) : p.firstOnes ds names = children := by
  induction h with
  | nil => rfl
  | skipped hd _ ih => rw [firstOnes_of_error hd, ih]
  | repeated hd hn _ ih => rw [firstOnes_of_mem hd hn, ih]
  | first hd hn _ ih => rw [firstOnes_of_not_mem hd hn, ih]

theorem obstacle?_eq (h : p.Yields ds names children) : p.obstacle? ds = none := by
  induction h with
  | nil => rfl
  | skipped hd _ ih => rw [obstacle?, List.findSome?_cons, hd, ← obstacle?, ih]
  | repeated hd _ _ ih => rw [obstacle?, List.findSome?_cons, hd, ← obstacle?, ih]
  | first hd _ _ ih => rw [obstacle?, List.findSome?_cons, hd, ← obstacle?, ih]

end Pending.Yields

/-- **The discovery, module by module**: the queue, and the modules that are visited from there. -/
inductive Visits (parse : Source.Parser) : List (Pending t) → List (Pending t) → Prop
  | done : Visits parse [] []
  | lost {p : Pending t} {queue visited : List (Pending t)} {fault : Diagnostic}
      (hi : p.items parse = .error fault) (hp : p.place.path ≠ .root)
      (hrest : Visits parse queue visited) : Visits parse (p :: queue) (p :: visited)
  | opened {p : Pending t} {block : Block} {queue children visited : List (Pending t)}
      (hi : p.items parse = .ok block) (hd : p.Yields block.declarations [] children)
      (hrest : Visits parse (queue ++ children) visited) :
      Visits parse (p :: queue) (p :: visited)

namespace Visits

theorem order_eq {queue visited : List (Pending t)} (h : Visits parse queue visited) :
    order parse queue = visited := by
  induction h with
  | done => rw [order]
  | lost hi _ _ ih => rw [order, Pending.offspring_of_error hi, List.append_nil, ih]
  | opened hi hd _ ih => rw [order, Pending.offspring_of_ok hi, hd.firstOnes_eq, ih]

/-- Nothing ends such a discovery. -/
theorem findSome?_eq {queue visited : List (Pending t)} (h : Visits parse queue visited) :
    visited.findSome? (Pending.fatal? parse) = none := by
  induction h with
  | done => rfl
  | lost hi hp _ ih => simp [Pending.fatal?, hi, hp, ih]
  | opened hi hd _ ih => simp [Pending.fatal?, hi, hd.obstacle?_eq, ih]

variable {file : Path} {visited : List (Pending t)}

/-- **A crate whose modules are known has a graph.** -/
theorem exists_built (h : Visits parse [rootOf t file] visited) (unit : String)
    (hfile : t.canonical file = .ok (t.resolve file)) :
    ∃ g, (graph parse t unit file).result = .ok g ∧ Built parse (rootOf t file) g := by
  refine Build.exists_built unit hfile ?_
  rw [h.order_eq]
  exact h.findSome?_eq

/-- The modules that are visited are those that are declared. -/
theorem mem_iff (h : Visits parse [rootOf t file] visited) {p : Pending t} :
    p ∈ visited ↔ Declared parse (rootOf t file) p.place.path.segments p := by
  rw [← h.order_eq, mem_order]
  constructor
  · rintro ⟨segments, hp⟩
    rwa [hp.path_rootOf]
  · exact fun hp => ⟨_, hp⟩

theorem contains_iff (h : Visits parse [rootOf t file] visited) {g : ModuleGraph}
    (hb : Built parse (rootOf t file) g) {path : ModulePath} :
    g.contains path = true ↔ ∃ p ∈ visited, p.place.path = path := by
  rw [hb.contains_iff]
  constructor
  · rintro ⟨p, hp⟩
    have hpath : p.place.path = path := hp.path_rootOf
    exact ⟨p, h.mem_iff.2 (hpath ▸ hp), hpath⟩
  · rintro ⟨p, hp, rfl⟩
    exact ⟨p, h.mem_iff.1 hp⟩

end Visits

/-! ## Two small crates

Both have one file, and a parser that knows nothing but the text of that file. -/

namespace Sample

/-- A tree with one file in it. -/
def tree (source : String) : FileTree :=
  { entries := [(["lib.rs"], .file (source.toList.map Char.toNat))], here := [] }

/-- The path of the file. -/
def rootFile : Path := ⟨.top, ["lib.rs"]⟩

/-- The parser that knows the syntax tree of one text. -/
def parser (source : String) (root : Node) : Source.Parser :=
  fun text => if text = source then some root else none

/-- A named node of a syntax tree. -/
def node (kind text : String) (column : Nat) (field : Option String) (children : List Node) :
    Node :=
  ⟨kind, some text, true, false, false, ⟨0, column⟩, field, children⟩

/-- A keyword or a punctuation mark. -/
def mark (text : String) (column : Nat) : Node :=
  ⟨text, some text, false, false, false, ⟨0, column⟩, none, []⟩

/-- The block of the root, if its text can be read and its syntax tree is sound. -/
theorem items_of_readText {t : FileTree} {file : Path} {source : String} {root : Node}
    (hread : Source.readText t (t.resolve file) = .ok source) (hsound : root.broken = false) :
    (rootOf t file).items (parser source root) = .ok (.ofNode root) := by
  show Source.readBlock (parser source root) t (t.resolve file) = _
  simp [Source.readBlock, hread, Source.parseText, parser, hsound]

/-- A crate whose only module imports from the root. -/
def globSource : String := "mod a\x7buse super::*;\x7d"

/-- The syntax tree of that crate. -/
def globRoot : Node :=
  node "source_file" globSource 0 none [
    node "mod_item" globSource 0 none [
      mark "mod" 0,
      node "identifier" "a" 4 (some "name") [],
      node "declaration_list" "\x7buse super::*;\x7d" 5 (some "body") [
        mark "\x7b" 5,
        node "use_declaration" "use super::*;" 6 none [
          mark "use" 6,
          node "use_wildcard" "super::*" 10 (some "argument") [
            node "super" "super" 10 none [],
            mark "::" 15,
            mark "*" 17],
          mark ";" 18],
        mark "\x7d" 19]]]

/-- The module `a` of that crate. -/
def inner : Pending (tree globSource) where
  place := ⟨⟨["a"]⟩, rootFile, .inline, ⟨.top, ["a"]⟩⟩
  above := [["lib.rs"]]
  body := some (.mk [] [.path "super" .glob])
  fresh := by simp

/-- The two modules of the crate, in order. -/
theorem visits_globRoot :
    Visits (parser globSource globRoot) [rootOf (tree globSource) rootFile]
      [rootOf (tree globSource) rootFile, inner] := by
  have hblock : Block.ofNode globRoot
      = .mk [.mk "a" none (some (.mk [] [.path "super" .glob]))] [] := by cbv
  have hroot : (rootOf (tree globSource) rootFile).items (parser globSource globRoot)
      = .ok (.mk [.mk "a" none (some (.mk [] [.path "super" .glob]))] []) := by
    rw [items_of_readText (by cbv) rfl, hblock]
  have hinner : (rootOf (tree globSource) rootFile).declare
      (.mk "a" none (some (.mk [] [.path "super" .glob]))) = .ok inner := by cbv
  exact .opened hroot (.first hinner (by simp) .nil) (.opened (p := inner) rfl .nil .done)

theorem canonical_tree (source : String) :
    (tree source).canonical rootFile = .ok ((tree source).resolve rootFile) := by
  have hplain : (tree source).Plain ["lib.rs"] :=
    (FileTree.Plain.top _).concat rfl (by decide) (by decide) (by decide) rfl
  have hlocate : (tree source).locate rootFile = .ok ["lib.rs"] :=
    FileTree.locate_ofLocation hplain
  exact FileTree.canonical_of_locate (by decide) hlocate

/-- The crate has a graph. -/
theorem exists_built_globRoot :
    ∃ g, (graph (parser globSource globRoot) (tree globSource) "demo" rootFile).result = .ok g ∧
      Built (parser globSource globRoot) (rootOf (tree globSource) rootFile) g :=
  visits_globRoot.exists_built "demo" (canonical_tree globSource)

/-- The inner module is declared. -/
theorem declared_inner :
    Declared (parser globSource globRoot) (rootOf (tree globSource) rootFile) ["a"] inner :=
  (visits_globRoot.mem_iff (p := inner)).1 (by simp)

/-- A crate whose only module has a `path` attribute that is the null character. -/
def nullSource : String := "#[path=\"\x00\"]mod a;"

/-- The syntax tree of that crate. -/
def nullRoot : Node :=
  node "source_file" nullSource 0 none [
    node "attribute_item" "#[path=\"\x00\"]" 0 none [
      mark "#" 0,
      mark "[" 1,
      node "attribute" "path=\"\x00\"" 2 none [
        node "identifier" "path" 2 none [],
        mark "=" 6,
        node "string_literal" "\"\x00\"" 7 (some "value") []],
      mark "]" 10],
    node "mod_item" "mod a;" 11 none [
      mark "mod" 11,
      node "identifier" "a" 15 (some "name") [],
      mark ";" 16]]

theorem items_nullRoot {t : FileTree} {file : Path}
    (hread : Source.readText t (t.resolve file) = .ok nullSource) :
    (rootOf t file).items (parser nullSource nullRoot)
      = .ok (.mk [.mk "a" (some "\x00") none] []) := by
  have hblock : Block.ofNode nullRoot = .mk [.mk "a" (some "\x00") none] [] := by cbv
  rw [items_of_readText hread rfl, hblock]

/-- The crate has no graph. -/
theorem graph_nullRoot :
    (graph (parser nullSource nullRoot) (tree nullSource) "demo" rootFile).result
      = .error .nullInPath :=
  graph_of_fatal_root "demo" (canonical_tree nullSource)
    (by rw [Pending.fatal?, items_nullRoot (by cbv)]; cbv)

end Sample

end Build

end CrateAtlas
