import Mathlib.Data.List.Infix
import CrateAtlas.Proofs.Diagnostics

/-!
# Files that load themselves

A file may back many modules of a crate, but not two on the same way from the root, since such a way
would go on for ever.  The discovery keeps the files loaded on the way in each pending module, apart
from the graph.  Here this is said of the graph alone.

* `ModuleGraph.filesTo` — the files of the modules from the root down to a path, as the graph has
  them.  They are the files that the module there remembers (`Built.filesTo_eq`): inline modules add
  nothing, and of several declarations of a name only the one that is followed does.
* `circular_loading_exact` — **no file is twice on the way to a module**, and a declaration is
  reported as circular exactly if its file is on the way to the module that declares it.  A file
  that is loaded elsewhere in the crate is never in the way.

Files are compared by where they are, so spellings and links make no difference.
-/

set_option autoImplicit false

namespace CrateAtlas

theorem Path.ofLocation_injective : Function.Injective Path.ofLocation := by
  intro l l' h
  exact congrArg Path.parts h

namespace ModuleGraph

/-- The file of the module with the given path.  Inline modules have none. -/
def fileAt? (g : ModuleGraph) (path : ModulePath) : Option Path :=
  (g.module? path).bind Module.file

/-- The files of the modules from the root down to the one with the given path. -/
def filesTo (g : ModuleGraph) (path : ModulePath) : List Path :=
  path.segments.inits.filterMap fun above => g.fileAt? ⟨above⟩

theorem filterMap_singleton {α β : Type} (f : α → Option β) (a : α) :
    [a].filterMap f = (f a).toList := by
  rw [List.filterMap_cons, List.filterMap_nil]
  cases f a <;> rfl

theorem filesTo_root (g : ModuleGraph) : g.filesTo .root = (g.fileAt? .root).toList :=
  filterMap_singleton (fun above => g.fileAt? ⟨above⟩) []

theorem filesTo_child (g : ModuleGraph) (path : ModulePath) (name : String) :
    g.filesTo (path.child name) = g.filesTo path ++ (g.fileAt? (path.child name)).toList := by
  have hinits : (path.child name).segments.inits
      = path.segments.inits ++ [(path.child name).segments] := by
    rw [ModulePath.child]
    simp
  rw [filesTo, hinits, List.filterMap_append, filterMap_singleton]
  rfl

end ModuleGraph

namespace Build

variable {t : FileTree} {parse : Source.Parser} {file : Path}

/-! ## Files on the way -/

/-- The file that a module adds to those on the way to it. -/
theorem Pending.chain_eq (p : Pending t) :
    p.chain = (if p.body.isSome then [] else [t.target p.place.file]) ++ p.above := by
  rw [chain]
  cases p.body <;> rfl

/-- No file is loaded twice on the way to a module. -/
theorem Declared.nodup_chain {segments : List String} {p : Pending t}
    (h : Declared parse (rootOf t file) segments p) : p.chain.Nodup := by
  induction h with
  | root => exact List.nodup_singleton _
  | @child _ _ _ c _ _ _ hf ih =>
    obtain ⟨d, -, -, hd⟩ := hf.exists_declare
    have habove : c.above.Nodup := by rwa [(Pending.declare_eq_ok hd).2.1]
    rw [Pending.chain]
    split
    · exact habove
    · rename_i hbody
      exact List.nodup_cons.2 ⟨c.fresh hbody, habove⟩

/-- The file of a module in the graph is the one that it adds. -/
theorem Built.fileAt?_eq {g : ModuleGraph} (h : Built parse (rootOf t file) g)
    {segments : List String} {p : Pending t} (hp : Declared parse (rootOf t file) segments p) :
    g.fileAt? ⟨segments⟩
      = if p.body.isSome then none else some (t.resolve p.place.file) := by
  have hmodule : g.module? ⟨segments⟩ = some p.toModule := h.module?_eq_some_iff.2 ⟨p, hp, rfl⟩
  rw [ModuleGraph.fileAt?, hmodule, Option.bind_some, Pending.toModule, Placement.isInline]
  have hinline : p.place.kind = .inline ↔ p.body.isSome = true := by
    rw [← not_iff_not, ← Ne, hp.kind_ne_inline_iff]
    cases p.body <;> simp
  simp only [decide_eq_true_eq, hinline]

/-- **The files on the way to a module are those that it remembers**, the last one first. -/
theorem Built.filesTo_eq {g : ModuleGraph} (h : Built parse (rootOf t file) g)
    {segments : List String} {p : Pending t} (hp : Declared parse (rootOf t file) segments p) :
    g.filesTo ⟨segments⟩ = p.chain.reverse.map .ofLocation := by
  induction hp with
  | root =>
    show g.filesTo .root = _
    rw [ModuleGraph.filesTo_root]
    show (g.fileAt? ⟨[]⟩).toList = _
    rw [h.fileAt?_eq .root]
    rfl
  | @child segments name p c block hp hi hf ih =>
    obtain ⟨d, -, -, hd⟩ := hf.exists_declare
    show g.filesTo ((⟨segments⟩ : ModulePath).child name) = _
    rw [ModuleGraph.filesTo_child, ih, c.chain_eq, (Pending.declare_eq_ok hd).2.1,
      List.reverse_append, List.map_append]
    congr 1
    show (g.fileAt? ⟨segments ++ [name]⟩).toList = _
    rw [h.fileAt?_eq (.child hp hi hf)]
    cases c.body <;> rfl

/-- Whether a file is on the way to a module can be asked of the graph. -/
theorem Built.mem_filesTo_iff {g : ModuleGraph} (h : Built parse (rootOf t file) g)
    {segments : List String} {p : Pending t} (hp : Declared parse (rootOf t file) segments p)
    {target : Path} : t.resolve target ∈ g.filesTo ⟨segments⟩ ↔ t.target target ∈ p.chain := by
  rw [h.filesTo_eq hp, FileTree.resolve, List.mem_map_of_injective Path.ofLocation_injective,
    List.mem_reverse]

/-! ## Reports of declarations -/

/-- The declaration of a module in a file of its own: it stands at a position in the block of the
module with a path, and has a place. -/
structure FileDeclaration (parse : Source.Parser) (root : Pending t) (path : ModulePath)
    (position : Nat) where
  /-- The module with the path. -/
  parent : Pending t
  /-- Its block. -/
  block : Block
  /-- The declaration. -/
  declaration : Declaration
  /-- The place of the declared module. -/
  place : Placement
  declared : Declared parse root path.segments parent
  items : parent.items parse = .ok block
  mem : block.declarations[position]? = some declaration
  body : declaration.body = none
  resolved : Placement.ofDeclaration t parent.scope declaration.name false declaration.override
    = .ok place

/-- The reports on the modules of a crate, in the order in which they are made. -/
def reportsOf (parse : Source.Parser) (t : FileTree) (file : Path) : List (Site × Diagnostic) :=
  (order parse [rootOf t file]).flatMap (Pending.reports parse)

theorem mem_reportsOf_iff {path : ModulePath} {position : Nat} {p : Pending t} {block : Block}
    {d : Declaration} {fault : Diagnostic}
    (hp : Declared parse (rootOf t file) path.segments p) (hi : p.items parse = .ok block)
    (hd : block.declarations[position]? = some d) :
    (.declaration path position, fault) ∈ reportsOf parse t file ↔
      p.declare d = .error (.diagnostic fault) := by
  have hpath : p.place.path = path := hp.path_rootOf
  rw [reportsOf, List.mem_flatMap]
  constructor
  · rintro ⟨q, hq, hm⟩
    obtain ⟨segments, hq⟩ := mem_order.1 hq
    -- A site lies in one module only.
    obtain rfl : path.segments = segments := by
      have hsite : path = q.place.path := Pending.path_of_mem_reports hm
      rw [hsite, hq.path_rootOf]
    obtain rfl := hq.unique hp
    obtain ⟨_, d', _, hd', hc, hx⟩ := (Pending.mem_reports_of_ok hi).1 hm
    cases hx
    obtain rfl := Option.some.inj (hd.symm.trans hd')
    exact hc
  · intro hc
    refine ⟨p, mem_order.2 ⟨_, hp⟩, (Pending.mem_reports_of_ok hi).2 ?_⟩
    exact ⟨position, d, fault, hd, hc, by rw [hpath]⟩

namespace FileDeclaration

variable {path : ModulePath} {position : Nat} {g : ModuleGraph}

theorem isInline_eq (x : FileDeclaration parse (rootOf t file) path position) :
    x.declaration.isInline = false := by
  rw [Declaration.isInline, x.body]
  rfl

theorem canonical_eq (x : FileDeclaration parse (rootOf t file) path position)
    (hfree : ¬Obstructed parse t file) :
    t.canonical x.place.file = .ok (t.resolve x.place.file) := by
  cases hfile : t.canonical x.place.file with
  | ok q => rw [FileTree.canonical_eq_ok hfile]
  | error f =>
    refine absurd ⟨f, .declaration x.declared x.items (List.mem_of_getElem? x.mem)
      (.file x.body ?_ hfile)⟩ hfree
    rw [x.isInline_eq]
    exact x.resolved

/-- **What is reported of the declaration of a file**: that it is circular, if its file is on the
way. -/
theorem mem_reportsOf (x : FileDeclaration parse (rootOf t file) path position)
    (hb : Built parse (rootOf t file) g) (hfree : ¬Obstructed parse t file) {fault : Diagnostic} :
    (.declaration path position, fault) ∈ reportsOf parse t file ↔
      t.resolve x.place.file ∈ g.filesTo path ∧
        fault = .circular (path.child x.declaration.name).render (t.resolve x.place.file)
          (some x.parent.place.file) := by
  have hpath : x.parent.place.path = path := x.declared.path_rootOf
  have hplace : x.place.path = path.child x.declaration.name := by
    rw [(Placement.ofDeclaration_eq_ok x.resolved).1]
    exact congrArg (ModulePath.child · x.declaration.name) hpath
  rw [mem_reportsOf_iff x.declared x.items x.mem, Pending.declare_eq_diagnostic_iff, x.isInline_eq,
    x.resolved, hb.mem_filesTo_iff x.declared]
  simp [x.body, x.canonical_eq hfree, hplace]

/-- A declaration that is not circular leads to a module of the graph. -/
theorem contains_of_not_mem (x : FileDeclaration parse (rootOf t file) path position)
    (hb : Built parse (rootOf t file) g) (hfree : ¬Obstructed parse t file)
    (h : t.resolve x.place.file ∉ g.filesTo path) :
    g.contains (path.child x.declaration.name) = true := by
  have hmem := List.mem_of_getElem? x.mem
  rcases x.declared.declare_cases hfree x.items hmem with ⟨c, hc⟩ | ⟨fault, hc⟩
  · exact hb.contains_child_iff.2 ⟨_, _, _, c, x.declared, x.items, hmem, rfl, hc⟩
  · have hreported := (mem_reportsOf_iff x.declared x.items x.mem).2 hc
    exact absurd ((x.mem_reportsOf hb hfree).1 hreported).1 h

end FileDeclaration

/-- What is reported as circular is the declaration of a file. -/
theorem exists_fileDeclaration {site : Site} {name : String} {target : Path}
    {declaredIn : Option Path}
    (h : (site, .circular name target declaredIn) ∈ reportsOf parse t file) :
    ∃ path position, site = .declaration path position ∧
      Nonempty (FileDeclaration parse (rootOf t file) path position) := by
  obtain ⟨q, hq, hm⟩ := List.mem_flatMap.1 h
  obtain ⟨_, hq⟩ := mem_order.1 hq
  cases hq.reported_of_mem hm with
  | @circular segments p block position d place hp hi hd hb hr =>
    obtain rfl : p.place.path.segments = segments := congrArg ModulePath.segments hp.path_rootOf
    rw [Declaration.isInline, hb] at hr
    exact ⟨_, position, rfl, ⟨p, block, d, place, hp, hi, hd, hb, hr⟩⟩

/-! ## A crate whose file loads itself -/

namespace Sample

/-- A crate with an inline module in which the file of the crate is declared again. -/
def loopSource : String := "mod a\x7b#[path=\"../lib.rs\"]mod b;\x7d"

/-- The syntax tree of that crate. -/
def loopRoot : Node :=
  node "source_file" loopSource 0 none [
    node "mod_item" loopSource 0 none [
      mark "mod" 0,
      node "identifier" "a" 4 (some "name") [],
      node "declaration_list" "\x7b#[path=\"../lib.rs\"]mod b;\x7d" 5 (some "body") [
        mark "\x7b" 5,
        node "attribute_item" "#[path=\"../lib.rs\"]" 6 none [
          mark "#" 6,
          mark "[" 7,
          node "attribute" "path=\"../lib.rs\"" 8 none [
            node "identifier" "path" 8 none [],
            mark "=" 12,
            node "string_literal" "\"../lib.rs\"" 13 (some "value") []],
          mark "]" 24],
        node "mod_item" "mod b;" 25 none [
          mark "mod" 25,
          node "identifier" "b" 29 (some "name") [],
          mark ";" 30],
        mark "\x7d" 31]]]

/-- The body of the inline module. -/
def loopBody : Block := .mk [.mk "b" (some "../lib.rs") none] []

/-- The inline module. -/
def between : Pending (tree loopSource) where
  place := ⟨⟨["a"]⟩, rootFile, .inline, ⟨.top, ["a"]⟩⟩
  above := [["lib.rs"]]
  body := some loopBody
  fresh := by simp

/-- The place of the inner declaration. -/
def loopPlace : Placement :=
  ⟨⟨["a", "b"]⟩, ⟨.top, ["a", "..", "lib.rs"]⟩, .external, ⟨.top, ["a", ".."]⟩⟩

theorem resolve_loopPlace : (tree loopSource).resolve loopPlace.file = rootFile := by cbv

/-- The file is on the way, though it is spelled in another way. -/
theorem mem_chain_between : (tree loopSource).target loopPlace.file ∈ between.chain := by
  have htarget : (tree loopSource).target loopPlace.file = ["lib.rs"] :=
    congrArg Path.parts resolve_loopPlace
  rw [htarget]
  exact List.mem_singleton_self _

/-- The crate has two modules. -/
theorem visits_loopRoot :
    Visits (parser loopSource loopRoot) [rootOf (tree loopSource) rootFile]
      [rootOf (tree loopSource) rootFile, between] := by
  have hblock : Block.ofNode loopRoot = .mk [.mk "a" none (some loopBody)] [] := by cbv
  have hroot : (rootOf (tree loopSource) rootFile).items (parser loopSource loopRoot)
      = .ok (.mk [.mk "a" none (some loopBody)] []) := by
    rw [items_of_readText (by cbv) rfl, hblock]
  have hbetween : (rootOf (tree loopSource) rootFile).declare (.mk "a" none (some loopBody))
      = .ok between := by cbv
  have hloop : between.declare (.mk "b" (some "../lib.rs") none)
      = .error (.diagnostic (.circular "a::b" rootFile (some rootFile))) := by cbv
  exact .opened hroot (.first hbetween (by simp) .nil)
    (.opened (p := between) rfl (.skipped hloop .nil) .done)

/-- The crate has a graph. -/
theorem exists_built_loopRoot :
    ∃ g, (graph (parser loopSource loopRoot) (tree loopSource) "demo" rootFile).result = .ok g ∧
      Built (parser loopSource loopRoot) (rootOf (tree loopSource) rootFile) g :=
  visits_loopRoot.exists_built "demo" (canonical_tree loopSource)

theorem declared_between :
    Declared (parser loopSource loopRoot) (rootOf (tree loopSource) rootFile) ["a"] between :=
  (visits_loopRoot.mem_iff (p := between)).1 (by simp)

/-- The declaration in the inline module. -/
def loopDeclaration :
    FileDeclaration (parser loopSource loopRoot) (rootOf (tree loopSource) rootFile) ⟨["a"]⟩ 0 where
  parent := between
  block := loopBody
  declaration := .mk "b" (some "../lib.rs") none
  place := loopPlace
  declared := declared_between
  items := rfl
  mem := rfl
  body := rfl
  resolved := by cbv

end Sample

/-- **Circular loading is detected exactly.**  On the way from the root to a module no file is
loaded twice.  The declaration of a file is reported as circular exactly if its file is on the way
to the module that declares it; otherwise nothing is reported of it, wherever else in the crate its
file may be loaded, and it leads to a module.  Nothing else is reported as circular. -/
theorem circular_loading_exact {unit : String} {g : ModuleGraph}
    (h : (graph parse t unit file).result = .ok g) :
    (∀ path, g.contains path = true → (g.filesTo path).Nodup) ∧
    ∃ found : List (Site × Diagnostic),
      g.diagnostics = found.map Prod.snd ∧ (found.map Prod.fst).Nodup ∧
      (∀ path position (x : FileDeclaration parse (rootOf t file) path position),
        (∀ fault, (.declaration path position, fault) ∈ found ↔
          t.resolve x.place.file ∈ g.filesTo path ∧
            fault = .circular (path.child x.declaration.name).render (t.resolve x.place.file)
              (some x.parent.place.file)) ∧
        (t.resolve x.place.file ∉ g.filesTo path →
          g.contains (path.child x.declaration.name) = true)) ∧
      ∀ site name target declaredIn, (site, .circular name target declaredIn) ∈ found →
        ∃ path position, site = .declaration path position ∧
          Nonempty (FileDeclaration parse (rootOf t file) path position) := by
  have hb := built_of_graph h
  have hfree := not_obstructed_of_graph h
  refine ⟨fun path hc => ?_, reportsOf parse t file, diagnostics_of_graph h,
    nodup_sites_order parse (rootOf t file), fun path position x => ⟨fun fault => ?_, ?_⟩, ?_⟩
  · obtain ⟨p, hp⟩ := hb.contains_iff.1 hc
    rw [hb.filesTo_eq hp, List.nodup_map_iff Path.ofLocation_injective, List.nodup_reverse]
    exact hp.nodup_chain
  · exact x.mem_reportsOf hb hfree
  · exact x.contains_of_not_mem hb hfree
  · intro site name target declaredIn hm
    exact exists_fileDeclaration hm

/-- In `mod a { #[path = "../lib.rs"] mod b; }` in the file `lib.rs`, the inner declaration is
reported as circular. -/
theorem loop_through_inline_module :
    ∃ g, (graph (Sample.parser Sample.loopSource Sample.loopRoot) (Sample.tree Sample.loopSource)
        "demo" Sample.rootFile).result = .ok g ∧
      .circular "a::b" Sample.rootFile (some Sample.rootFile) ∈ g.diagnostics := by
  obtain ⟨g, hg, hb⟩ := Sample.exists_built_loopRoot
  obtain ⟨-, found, hdiagnostics, -, hfound, -⟩ := circular_loading_exact hg
  refine ⟨g, hg, ?_⟩
  have hmem : (Sample.tree Sample.loopSource).resolve Sample.loopDeclaration.place.file
      ∈ g.filesTo ⟨["a"]⟩ := by
    rw [hb.mem_filesTo_iff Sample.declared_between]
    exact Sample.mem_chain_between
  have hreported := ((hfound _ _ Sample.loopDeclaration).1 _).2 ⟨hmem, rfl⟩
  rw [show Sample.loopDeclaration.place = Sample.loopPlace from rfl, Sample.resolve_loopPlace]
    at hreported
  rw [hdiagnostics]
  exact List.mem_map.2 ⟨_, hreported, rfl⟩

end Build

end CrateAtlas
