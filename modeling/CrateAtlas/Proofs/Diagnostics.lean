import Mathlib.Data.List.Sigma
import CrateAtlas.Proofs.BuiltGraph

/-!
# What is reported of a crate

Nothing that goes wrong while a graph is built is lost, and nothing is reported twice.

* `Site` — the places where something can go wrong: the file of a module, and each declaration in a
  block, by its position there.  The same declaration may occur many times in a crate, since the
  same file may back many modules; each occurrence is a site of its own.
* `Reported` — **the specification**: what is wrong at a site.  A file cannot be read or parsed, a
  declaration has no place, or it loads a file again that is loaded on the way to it (`Loads`).
* `graph_diagnostics_exact` — the diagnostics of the graph are those of the sites, one for each.

The diagnostics are empty exactly if all files were parsed and all declarations lead somewhere.  It
is not enough that all declarations *name* modules of the graph: in `mod a {} mod a;` the second
declaration names the module of the first, and is reported if there is no file for it
(`reported_though_named`).
-/

set_option autoImplicit false

namespace CrateAtlas

/-! ## Why blocks and places are missing -/

theorem Source.parseText_eq_error {parse : Parser} {file : Path} {text : String}
    {fault : Diagnostic} (h : parseText parse file text = .error fault) :
    ∃ line column problem, fault = .notRust file line column problem := by
  rw [parseText] at h
  split at h
  · cases h
    exact ⟨_, _, _, rfl⟩
  · split at h
    · cases h
      exact ⟨_, _, _, rfl⟩
    · cases h

/-- A block is missing because its file cannot be read, or cannot be parsed. -/
theorem Source.readBlock_eq_error_iff {parse : Parser} {t : FileTree} {file : Path}
    {fault : Diagnostic} :
    readBlock parse t file = .error fault ↔
      readText t file = .error fault ∨
        ∃ text, readText t file = .ok text ∧ parseText parse file text = .error fault := by
  rw [readBlock]
  cases readText t file <;> simp

/-- A declaration without a place is one of a module in a file that is not there. -/
theorem Placement.ofDeclaration_eq_error {t : FileTree} {scope : Scope} {name : String}
    {isInline : Bool} {override : Option String} {fault : Diagnostic}
    (h : ofDeclaration t scope name isInline override = .error (.diagnostic fault)) :
    isInline = false ∧ ∃ expected,
      fault = .noModuleFile (scope.path.child name).render expected (some scope.file) := by
  obtain ⟨hinline, -, hlacks⟩ := ofDeclaration_eq_error_iff.1 h
  cases hlacks
  exact ⟨hinline, _, rfl⟩

namespace Build

variable {t : FileTree} {parse : Source.Parser} {file : Path}

/-! ## Files loaded on the way -/

/-- `Loads parse root segments l`: the file at `l` is loaded on the way from the root to the module
with the path `segments`, for this module or for one above it. -/
def Loads (parse : Source.Parser) (root : Pending t) (segments : List String) (l : Location) :
    Prop :=
  ∃ above q, above <+: segments ∧ Declared parse root above q ∧ q.body = none ∧
    t.target q.place.file = l

theorem Pending.mem_chain_iff {p : Pending t} {l : Location} :
    l ∈ p.chain ↔ p.body = none ∧ t.target p.place.file = l ∨ l ∈ p.above := by
  rw [chain]
  cases p.body with
  | none => simp [eq_comm]
  | some block => simp

/-- **The files that a module remembers are those loaded on the way to it.** -/
theorem Declared.mem_chain_iff {segments : List String} {p : Pending t} {l : Location}
    (h : Declared parse (rootOf t file) segments p) :
    l ∈ p.chain ↔ Loads parse (rootOf t file) segments l := by
  -- At each step the last segment adds the module itself; the rest is the chain of its parent.
  induction h with
  | root =>
    have habove : l ∉ (rootOf t file).above := List.not_mem_nil
    rw [Pending.mem_chain_iff, or_iff_left habove]
    constructor
    · rintro ⟨hb, hl⟩
      exact ⟨[], _, List.prefix_rfl, .root, hb, hl⟩
    · rintro ⟨above, q, hpre, hq, hb, hl⟩
      obtain rfl := List.prefix_nil.1 hpre
      obtain rfl := hq.unique .root
      exact ⟨hb, hl⟩
  | @child segments name p c block hp hi hf ih =>
    obtain ⟨d, -, -, hd⟩ := hf.exists_declare
    rw [Pending.mem_chain_iff, (Pending.declare_eq_ok hd).2.1, ih]
    constructor
    · rintro (⟨hb, hl⟩ | ⟨above, q, hpre, hq, hb, hl⟩)
      · exact ⟨_, c, List.prefix_rfl, .child hp hi hf, hb, hl⟩
      · exact ⟨above, q, hpre.trans (List.prefix_append _ _), hq, hb, hl⟩
    · rintro ⟨above, q, hpre, hq, hb, hl⟩
      rcases List.prefix_concat_iff.1 hpre with rfl | hpre
      · obtain rfl := hq.unique (.child hp hi hf)
        exact .inl ⟨hb, hl⟩
      · exact .inr ⟨above, q, hpre, hq, hb, hl⟩

/-! ## Sites -/

/-- A place in a crate where something can go wrong. -/
inductive Site where
  /-- The file of the module with the given path. -/
  | file (path : ModulePath)
  /-- The declaration at a position in the block of the module with the given path. -/
  | declaration (path : ModulePath) (position : Nat)
deriving DecidableEq, Repr

/-- The module at which something can go wrong. -/
def Site.path : Site → ModulePath
  | .file path => path
  | .declaration path _ => path

/-- **What is wrong at a site** of a crate. -/
inductive Reported (parse : Source.Parser) (root : Pending t) : Site → Diagnostic → Prop
  /-- A module lies in a file of its own that cannot be read. -/
  | unreadable {segments : List String} {p : Pending t} {reason : String}
      (hp : Declared parse root segments p) (hb : p.body = none)
      (ht : Source.readText t p.place.file = .error (.unreadable p.place.file reason)) :
      Reported parse root (.file p.place.path) (.unreadable p.place.file reason)
  /-- A module lies in a file of its own that can be read, but is not Rust. -/
  | notRust {segments : List String} {p : Pending t} {text problem : String} {line column : Int}
      (hp : Declared parse root segments p) (hb : p.body = none)
      (ht : Source.readText t p.place.file = .ok text)
      (hr : Source.parseText parse p.place.file text
        = .error (.notRust p.place.file line column problem)) :
      Reported parse root (.file p.place.path) (.notRust p.place.file line column problem)
  /-- A declaration has no place. -/
  | noModuleFile {segments : List String} {p : Pending t} {block : Block} {position : Nat}
      {d : Declaration} {expected : List Path}
      (hp : Declared parse root segments p) (hi : p.items parse = .ok block)
      (hd : block.declarations[position]? = some d)
      (hr : Placement.ofDeclaration t p.scope d.name d.isInline d.override = .error (.diagnostic
        (.noModuleFile (p.place.path.child d.name).render expected (some p.place.file)))) :
      Reported parse root (.declaration p.place.path position)
        (.noModuleFile (p.place.path.child d.name).render expected (some p.place.file))
  /-- A declaration has a place in a file that is loaded on the way to it. -/
  | circular {segments : List String} {p : Pending t} {block : Block} {position : Nat}
      {d : Declaration} {place : Placement}
      (hp : Declared parse root segments p) (hi : p.items parse = .ok block)
      (hd : block.declarations[position]? = some d) (hb : d.body = none)
      (hr : Placement.ofDeclaration t p.scope d.name d.isInline d.override = .ok place)
      (hl : Loads parse root segments (t.target place.file)) :
      Reported parse root (.declaration p.place.path position)
        (.circular (p.place.path.child d.name).render (t.resolve place.file) (some p.place.file))

namespace Pending

/-- The diagnostic with which a declaration is left out. -/
def skip? (p : Pending t) (d : Declaration) : Option Diagnostic :=
  match p.declare d with
  | .error (.diagnostic fault) => some fault
  | _ => none

/-- What is wrong with a module, site by site. -/
def reports (parse : Source.Parser) (p : Pending t) : List (Site × Diagnostic) :=
  match p.items parse with
  | .error fault => [(.file p.place.path, fault)]
  | .ok block =>
    block.declarations.zipIdx.filterMap fun (d, position) =>
      (p.skip? d).map fun fault => (.declaration p.place.path position, fault)

theorem map_snd_reports (p : Pending t) : (p.reports parse).map Prod.snd = p.faults parse := by
  rw [reports, faults]
  cases p.items parse with
  | error fault => rfl
  | ok block =>
    have hskip : p.skipped block.declarations = block.declarations.filterMap p.skip? := rfl
    simp only [hskip, List.map_filterMap, Option.map_map]
    calc block.declarations.zipIdx.filterMap _
        = block.declarations.zipIdx.filterMap (p.skip? ∘ Prod.fst) :=
          List.filterMap_congr fun x _ => Option.map_id'
      _ = block.declarations.filterMap p.skip? := by
          rw [← List.filterMap_map, List.zipIdx_map_fst]

theorem path_of_mem_reports {p : Pending t} {x : Site × Diagnostic} (h : x ∈ p.reports parse) :
    x.1.path = p.place.path := by
  rw [reports] at h
  split at h
  · obtain rfl := List.mem_singleton.1 h
    rfl
  · obtain ⟨_, -, hx⟩ := List.mem_filterMap.1 h
    obtain ⟨_, -, rfl⟩ := Option.map_eq_some_iff.1 hx
    rfl

/-- No site of a module is reported twice. -/
theorem nodup_sites_reports (p : Pending t) : ((p.reports parse).map Prod.fst).Nodup := by
  rw [reports]
  split
  · exact List.nodup_singleton _
  · rename_i block _
    have hpositions := List.nodup_zipIdx_map_snd block.declarations
    rw [List.Nodup, List.pairwise_map] at hpositions ⊢
    rw [List.pairwise_filterMap]
    refine hpositions.imp fun hne x hx y hy hxy => hne ?_
    obtain ⟨_, -, rfl⟩ := Option.map_eq_some_iff.1 hx
    obtain ⟨_, -, rfl⟩ := Option.map_eq_some_iff.1 hy
    exact (Site.declaration.inj hxy).2

/-- Why a declaration is left out: it has no place, or its file is loaded already. -/
theorem declare_eq_diagnostic_iff {p : Pending t} {d : Declaration} {fault : Diagnostic} :
    p.declare d = .error (.diagnostic fault) ↔
      Placement.ofDeclaration t p.scope d.name d.isInline d.override
        = .error (.diagnostic fault) ∨
      d.body = none ∧ ∃ place,
        Placement.ofDeclaration t p.scope d.name d.isInline d.override = .ok place ∧
          t.canonical place.file = .ok (t.resolve place.file) ∧ t.target place.file ∈ p.chain ∧
          fault = .circular place.path.render (t.resolve place.file) (some p.place.file) := by
  rw [declare]
  cases hplace : Placement.ofDeclaration t p.scope d.name d.isInline d.override with
  | error fault' => simp
  | ok place =>
    cases hb : d.body with
    | some block => simp
    | none =>
      cases hfile : t.canonical place.file with
      | error f =>
        have hfatal : f ≠ .diagnostic fault := by
          rintro rfl
          cases FileTree.isFatal_of_canonical hfile
        simp [hfile, hfatal]
      | ok file =>
        obtain rfl := FileTree.canonical_eq_ok hfile
        by_cases hl : t.target place.file ∈ p.chain
        · simp [hfile, hl, eq_comm (a := fault)]
        · simp [hfile, hl]

theorem skip?_eq_some_iff {p : Pending t} {d : Declaration} {fault : Diagnostic} :
    p.skip? d = some fault ↔ p.declare d = .error (.diagnostic fault) := by
  rw [skip?]
  split
  · rename_i h
    simp [h]
  · rename_i h
    exact iff_of_false (by simp) (h fault)

/-- A block is missing only where it lies in a file. -/
theorem body_of_items_eq_error {p : Pending t} {fault : Diagnostic}
    (h : p.items parse = .error fault) :
    p.body = none ∧ Source.readBlock parse t p.place.file = .error fault := by
  rw [items] at h
  split at h
  · cases h
  · exact ⟨‹_›, h⟩

theorem mem_reports_of_error {p : Pending t} {fault : Diagnostic}
    (h : p.items parse = .error fault) {x : Site × Diagnostic} :
    x ∈ p.reports parse ↔ x = (.file p.place.path, fault) := by
  rw [reports, h, List.mem_singleton]

theorem mem_reports_of_ok {p : Pending t} {block : Block} (h : p.items parse = .ok block)
    {x : Site × Diagnostic} :
    x ∈ p.reports parse ↔
      ∃ position d fault, block.declarations[position]? = some d ∧
        p.declare d = .error (.diagnostic fault) ∧
        x = (.declaration p.place.path position, fault) := by
  simp only [reports, h, List.mem_filterMap, Prod.exists, List.mem_zipIdx_iff_getElem?,
    Option.map_eq_some_iff, skip?_eq_some_iff]
  constructor
  · rintro ⟨d, position, hd, fault, hf, rfl⟩
    exact ⟨position, d, fault, hd, hf, rfl⟩
  · rintro ⟨position, d, fault, hd, hf, rfl⟩
    exact ⟨d, position, hd, fault, hf, rfl⟩

end Pending

/-! ## Reports of a whole crate -/

/-- What the reports of a declared module say is wrong. -/
theorem Declared.reported_of_mem {segments : List String} {p : Pending t} {site : Site}
    {fault : Diagnostic} (hp : Declared parse (rootOf t file) segments p)
    (h : (site, fault) ∈ p.reports parse) : Reported parse (rootOf t file) site fault := by
  cases hi : p.items parse with
  | error fault' =>
    cases (Pending.mem_reports_of_error hi).1 h
    obtain ⟨hb, hread⟩ := Pending.body_of_items_eq_error hi
    rcases Source.readBlock_eq_error_iff.1 hread with ht | ⟨text, ht, hr⟩
    · obtain ⟨reason, rfl⟩ := Source.readText_eq_error ht
      exact .unreadable hp hb ht
    · obtain ⟨line, column, problem, rfl⟩ := Source.parseText_eq_error hr
      exact .notRust hp hb ht hr
  | ok block =>
    obtain ⟨position, d, fault', hd, hf, hx⟩ := (Pending.mem_reports_of_ok hi).1 h
    cases hx
    obtain hr | ⟨hb, place, hr, -, hl, rfl⟩ := Pending.declare_eq_diagnostic_iff.1 hf
    · obtain ⟨-, expected, rfl⟩ := Placement.ofDeclaration_eq_error hr
      exact .noModuleFile hp hi hd hr
    · rw [(Placement.ofDeclaration_eq_ok hr).1]
      exact .circular hp hi hd hb hr (hp.mem_chain_iff.1 hl)

/-- What is wrong is in the reports of a declared module, if the building runs into nothing. -/
theorem Reported.exists_mem {site : Site} {fault : Diagnostic} (hfree : ¬Obstructed parse t file)
    (h : Reported parse (rootOf t file) site fault) :
    ∃ p ∈ order parse [rootOf t file], (site, fault) ∈ p.reports parse := by
  cases h with
  | @unreadable _ p reason hp hb ht =>
    have hi : p.items parse = .error (.unreadable p.place.file reason) := by
      rw [Pending.items, hb]
      exact Source.readBlock_eq_error_iff.2 (.inl ht)
    exact ⟨p, mem_order.2 ⟨_, hp⟩, (Pending.mem_reports_of_error hi).2 rfl⟩
  | @notRust _ p text problem line column hp hb ht hr =>
    have hi : p.items parse = .error (.notRust p.place.file line column problem) := by
      rw [Pending.items, hb]
      exact Source.readBlock_eq_error_iff.2 (.inr ⟨text, ht, hr⟩)
    exact ⟨p, mem_order.2 ⟨_, hp⟩, (Pending.mem_reports_of_error hi).2 rfl⟩
  | @noModuleFile _ p block position d expected hp hi hd hr =>
    have hf := Pending.declare_eq_diagnostic_iff.2 (.inl hr)
    exact ⟨p, mem_order.2 ⟨_, hp⟩, (Pending.mem_reports_of_ok hi).2 ⟨_, _, _, hd, hf, rfl⟩⟩
  | @circular segments p block position d place hp hi hd hb hr hl =>
    have hfile : t.canonical place.file = .ok (t.resolve place.file) := by
      cases hc : t.canonical place.file with
      | error f =>
        exact absurd ⟨f, .declaration hp hi (List.mem_of_getElem? hd) (.file hb hr hc)⟩ hfree
      | ok q => rw [FileTree.canonical_eq_ok hc]
    have hf : p.declare d = .error (.diagnostic
        (.circular place.path.render (t.resolve place.file) (some p.place.file))) :=
      Pending.declare_eq_diagnostic_iff.2
        (.inr ⟨hb, place, hr, hfile, hp.mem_chain_iff.2 hl, rfl⟩)
    have hpath : place.path = p.place.path.child d.name := (Placement.ofDeclaration_eq_ok hr).1
    rw [hpath] at hf
    exact ⟨p, mem_order.2 ⟨_, hp⟩, (Pending.mem_reports_of_ok hi).2 ⟨_, _, _, hd, hf, rfl⟩⟩

/-- What is wrong at a site is in the reports of the module there. -/
theorem Reported.exists_declared {site : Site} {fault : Diagnostic}
    (hfree : ¬Obstructed parse t file) (h : Reported parse (rootOf t file) site fault) :
    ∃ p, Declared parse (rootOf t file) site.path.segments p ∧ p.place.path = site.path ∧
      (site, fault) ∈ p.reports parse := by
  obtain ⟨p, hp, hm⟩ := h.exists_mem hfree
  obtain ⟨segments, hp⟩ := mem_order.1 hp
  have hpath : site.path = p.place.path := Pending.path_of_mem_reports hm
  obtain rfl : site.path.segments = segments := by rw [hpath, hp.path_rootOf]
  exact ⟨p, hp, hpath.symm, hm⟩

/-- No site of a crate is reported twice: different modules have different paths. -/
theorem nodup_sites_order (parse : Source.Parser) (root : Pending t) :
    (((order parse [root]).flatMap (Pending.reports parse)).map Prod.fst).Nodup := by
  rw [List.map_flatMap, List.nodup_flatMap]
  refine ⟨fun p _ => p.nodup_sites_reports, ?_⟩
  have hpaths := nodup_paths_order parse root
  rw [List.Nodup, List.pairwise_map] at hpaths
  refine hpaths.imp fun hne site hp hq => hne ?_
  obtain ⟨x, hx, rfl⟩ := List.mem_map.1 hp
  obtain ⟨y, hy, hxy⟩ := List.mem_map.1 hq
  rw [← Pending.path_of_mem_reports hx, ← Pending.path_of_mem_reports hy, hxy]

/-! ## Diagnostics of the graph -/

/-- Adding an edge leaves the diagnostics alone. -/
theorem diagnostics_of_addEdge {g g' : ModuleGraph} {e : Edge} {isNew : Bool}
    (h : g.addEdge e = .ok (g', isNew)) : g'.diagnostics = g.diagnostics := by
  rw [ModuleGraph.addEdge] at h
  split at h
  · cases h
  · split at h
    · cases h
    · split at h
      · cases h
      · split at h <;> cases h <;> rfl

theorem diagnostics_of_addImports {g g' : ModuleGraph} {source : ModulePath}
    {targets : List ModulePath} (h : addImports g source targets = .ok g') :
    g'.diagnostics = g.diagnostics := by
  induction targets generalizing g with
  | nil =>
    cases h
    rfl
  | cons target rest ih =>
    rw [addImports] at h
    split at h
    · cases h
    · rename_i hadd
      rw [ih h, diagnostics_of_addEdge hadd]

theorem diagnostics_of_resolveUses {known : ModulePath → Bool} {g g' : ModuleGraph}
    {uses : List (ModulePath × List UseTree)} (h : resolveUses known g uses = .ok g') :
    g'.diagnostics = g.diagnostics := by
  induction uses generalizing g with
  | nil =>
    cases h
    rfl
  | cons u rest ih =>
    rw [resolveUses] at h
    split at h
    · cases h
    · split at h
      · cases h
      · rename_i hadd
        rw [ih h, diagnostics_of_addImports hadd]

/-- **The diagnostics of a graph** are what is wrong with its modules, in breadth-first order. -/
theorem diagnostics_of_graph {unit : String} {g : ModuleGraph}
    (h : (graph parse t unit file).result = .ok g) :
    g.diagnostics
      = ((order parse [rootOf t file]).flatMap (Pending.reports parse)).map Prod.snd := by
  obtain ⟨-, -, hfinish⟩ := graph_eq_ok h
  rw [finish] at hfinish
  split at hfinish
  · cases hfinish
  · rename_i g' hg'
    cases hfinish
    have hfaults : g'.diagnostics = (order parse [rootOf t file]).flatMap (Pending.faults parse) :=
      diagnostics_of_resolveUses hg'
    show g'.diagnostics = _
    rw [hfaults, List.map_flatMap]
    exact List.flatMap_congr fun p _ => p.map_snd_reports.symm

/-- **The reports of a crate**: one for each site at which something is wrong. -/
theorem exists_reports {unit : String} {g : ModuleGraph}
    (h : (graph parse t unit file).result = .ok g) :
    ∃ found : List (Site × Diagnostic), (found.map Prod.fst).Nodup ∧
      (∀ site fault, (site, fault) ∈ found ↔ Reported parse (rootOf t file) site fault) ∧
      g.diagnostics = found.map Prod.snd := by
  refine ⟨_, nodup_sites_order parse (rootOf t file), fun site fault => ?_, diagnostics_of_graph h⟩
  rw [List.mem_flatMap]
  constructor
  · rintro ⟨p, hp, hx⟩
    obtain ⟨segments, hp⟩ := mem_order.1 hp
    exact hp.reported_of_mem hx
  · exact Reported.exists_mem (not_obstructed_of_graph h)

theorem diagnostics_eq_nil_iff {unit : String} {g : ModuleGraph}
    (h : (graph parse t unit file).result = .ok g) :
    g.diagnostics = [] ↔ ∀ site fault, ¬Reported parse (rootOf t file) site fault := by
  obtain ⟨found, -, hfound, hg⟩ := exists_reports h
  rw [hg, List.map_eq_nil_iff, List.eq_nil_iff_forall_not_mem, Prod.forall]
  simp only [hfound]

/-! ## Where something is wrong -/

/-- A declaration in the block of `p`, the module with the path `segments`, is sound: it has a
place, and does not load a file again that is loaded on the way to it. -/
def Sound (parse : Source.Parser) (root : Pending t) (segments : List String) (p : Pending t)
    (d : Declaration) : Prop :=
  ∃ place, Placement.ofDeclaration t p.scope d.name d.isInline d.override = .ok place ∧
    (d.body = none → ¬Loads parse root segments (t.target place.file))

/-- Where nothing is met, a declaration is followed or left out with a diagnostic. -/
theorem Declared.declare_cases {segments : List String} {p : Pending t} {block : Block}
    {d : Declaration} (hfree : ¬Obstructed parse t file)
    (hp : Declared parse (rootOf t file) segments p) (hi : p.items parse = .ok block)
    (hd : d ∈ block.declarations) :
    (∃ c, p.declare d = .ok c) ∨ ∃ fault, p.declare d = .error (.diagnostic fault) := by
  cases hc : p.declare d with
  | ok c => exact .inl ⟨c, rfl⟩
  | error f =>
    cases f with
    | diagnostic fault => exact .inr ⟨fault, rfl⟩
    | _ => exact absurd ⟨_, .declaration hp hi hd (Pending.blocked_iff.2 ⟨hc, rfl⟩)⟩ hfree

/-- **The sound declarations are those that are followed.** -/
theorem Declared.sound_iff {segments : List String} {p : Pending t} {block : Block}
    {d : Declaration} (hfree : ¬Obstructed parse t file)
    (hp : Declared parse (rootOf t file) segments p) (hi : p.items parse = .ok block)
    (hd : d ∈ block.declarations) :
    Sound parse (rootOf t file) segments p d ↔ ∃ c, p.declare d = .ok c := by
  constructor
  · rintro ⟨place, hplace, hloads⟩
    refine (hp.declare_cases hfree hi hd).resolve_right ?_
    rintro ⟨fault, hc⟩
    obtain herror | ⟨hb, place', hplace', -, hl, -⟩ := Pending.declare_eq_diagnostic_iff.1 hc
    · cases hplace.symm.trans herror
    · obtain rfl := Except.ok.inj (hplace.symm.trans hplace')
      exact hloads hb (hp.mem_chain_iff.1 hl)
  · rintro ⟨c, hc⟩
    obtain ⟨hplace, habove, hbody, -⟩ := Pending.declare_eq_ok hc
    refine ⟨c.place, hplace, fun hb => ?_⟩
    have hfresh := c.fresh (hbody.trans hb)
    rwa [habove, hp.mem_chain_iff] at hfresh

/-- Something is wrong with a declaration exactly if it is not sound. -/
theorem reported_declaration_iff {path : ModulePath} {position : Nat}
    (hfree : ¬Obstructed parse t file) :
    (∃ fault, Reported parse (rootOf t file) (.declaration path position) fault) ↔
      ∃ p block d, Declared parse (rootOf t file) path.segments p ∧ p.items parse = .ok block ∧
        block.declarations[position]? = some d ∧
        ¬Sound parse (rootOf t file) path.segments p d := by
  constructor
  · rintro ⟨fault, h⟩
    obtain ⟨q, hq, -, hm⟩ := h.exists_declared hfree
    cases hi : q.items parse with
    | error fault' => cases (Pending.mem_reports_of_error hi).1 hm
    | ok block =>
      obtain ⟨_, d, _, hd, hc, hx⟩ := (Pending.mem_reports_of_ok hi).1 hm
      cases hx
      refine ⟨q, block, d, hq, hi, hd, fun hs => ?_⟩
      obtain ⟨c, hc'⟩ := (hq.sound_iff hfree hi (List.mem_of_getElem? hd)).1 hs
      cases hc.symm.trans hc'
  · rintro ⟨p, block, d, hp, hi, hd, hs⟩
    have hpath : p.place.path = path := hp.path_rootOf
    have hmem := List.mem_of_getElem? hd
    rw [hp.sound_iff hfree hi hmem] at hs
    obtain ⟨fault, hc⟩ := (hp.declare_cases hfree hi hmem).resolve_left hs
    have hm := (Pending.mem_reports_of_ok hi).2 ⟨position, d, fault, hd, hc, rfl⟩
    rw [hpath] at hm
    exact ⟨fault, hp.reported_of_mem hm⟩

/-- The modules without a body are those of a kind other than inline. -/
theorem Declared.kind_ne_inline_iff {segments : List String} {p : Pending t}
    (h : Declared parse (rootOf t file) segments p) :
    p.place.kind ≠ .inline ↔ p.body = none := by
  cases h with
  | root => exact iff_of_true (by simp [Pending.root]) rfl
  | child _ _ hf =>
    obtain ⟨d, -, -, hd⟩ := hf.exists_declare
    rw [Pending.kind_of_declare hd]
    cases p.body <;> simp

/-- Something is wrong with the file of a module exactly if the module is not inline and has no
block. -/
theorem Built.reported_file_iff {g : ModuleGraph} (h : Built parse (rootOf t file) g)
    (hfree : ¬Obstructed parse t file) {path : ModulePath} :
    (∃ fault, Reported parse (rootOf t file) (.file path) fault) ↔
      ∃ m ∈ g.modules, m.path = path ∧ m.kind ≠ .inline ∧
        ¬∃ block, Scanned parse (rootOf t file) path block := by
  constructor
  · rintro ⟨fault, hr⟩
    obtain ⟨q, hq, hpath, hm⟩ := hr.exists_declared hfree
    cases hi : q.items parse with
    | ok block =>
      obtain ⟨_, _, _, -, -, hx⟩ := (Pending.mem_reports_of_ok hi).1 hm
      cases hx
    | error fault' =>
      have hb : q.body = none := (Pending.body_of_items_eq_error hi).1
      refine ⟨q.toModule, h.mem_modules.2 ⟨q, ?_, rfl⟩, hpath, hq.kind_ne_inline_iff.2 hb, ?_⟩
      · rw [Pending.path_toModule, hpath]
        exact hq
      · rintro ⟨block, q', hq', hi'⟩
        obtain rfl := hq'.unique hq
        cases hi.symm.trans hi'
  · rintro ⟨m, hm, rfl, hk, hno⟩
    obtain ⟨p, hp, rfl⟩ := h.mem_modules.1 hm
    cases hi : p.items parse with
    | ok block => exact absurd ⟨block, p, hp, hi⟩ hno
    | error fault => exact ⟨fault, hp.reported_of_mem ((Pending.mem_reports_of_error hi).2 rfl)⟩

/-! ## When nothing is wrong -/

/-- Every module that lies in a file of its own was read and parsed. -/
def AllParsed (parse : Source.Parser) (root : Pending t) (g : ModuleGraph) : Prop :=
  ∀ m ∈ g.modules, m.kind ≠ .inline → ∃ block, Scanned parse root m.path block

/-- Every declaration in a block that was obtained is sound and leads to a module of the graph. -/
def AllLead (parse : Source.Parser) (root : Pending t) (g : ModuleGraph) : Prop :=
  ∀ segments p block, Declared parse root segments p → p.items parse = .ok block →
    ∀ d ∈ block.declarations,
      Sound parse root segments p d ∧ g.contains (p.place.path.child d.name) = true

/-- Every declaration in a block that was obtained names a module of the graph. -/
def AllNamed (parse : Source.Parser) (root : Pending t) (g : ModuleGraph) : Prop :=
  ∀ path block, Scanned parse root path block →
    ∀ d ∈ block.declarations, g.contains (path.child d.name) = true

namespace Built

variable {g : ModuleGraph}

/-- A sound declaration names a module of the graph. -/
theorem contains_of_sound (h : Built parse (rootOf t file) g) (hfree : ¬Obstructed parse t file)
    {segments : List String} {p : Pending t} {block : Block} {d : Declaration}
    (hp : Declared parse (rootOf t file) segments p) (hi : p.items parse = .ok block)
    (hd : d ∈ block.declarations) (hs : Sound parse (rootOf t file) segments p d) :
    g.contains (p.place.path.child d.name) = true := by
  obtain ⟨c, hc⟩ := (hp.sound_iff hfree hi hd).1 hs
  rw [hp.path_rootOf]
  exact h.contains_child_iff.2 ⟨p, block, d, c, hp, hi, hd, rfl, hc⟩

/-- **When nothing is wrong**: all files were parsed, and all declarations lead somewhere. -/
theorem forall_not_reported_iff (h : Built parse (rootOf t file) g)
    (hfree : ¬Obstructed parse t file) :
    (∀ site fault, ¬Reported parse (rootOf t file) site fault) ↔
      AllParsed parse (rootOf t file) g ∧ AllLead parse (rootOf t file) g := by
  constructor
  · intro hno
    refine ⟨fun m hm hk => ?_, fun segments p block hp hi d hd => ?_⟩
    · by_contra hblock
      obtain ⟨fault, hr⟩ := (h.reported_file_iff hfree).2 ⟨m, hm, rfl, hk, hblock⟩
      exact hno _ fault hr
    · have hs : Sound parse (rootOf t file) segments p d := by
        by_contra hs
        obtain ⟨position, hposition⟩ := List.getElem?_of_mem hd
        obtain ⟨fault, hr⟩ :
            ∃ fault, Reported parse (rootOf t file) (.declaration ⟨segments⟩ position) fault :=
          (reported_declaration_iff hfree).2 ⟨p, block, d, hp, hi, hposition, hs⟩
        exact hno _ fault hr
      exact ⟨hs, h.contains_of_sound hfree hp hi hd hs⟩
  · rintro ⟨hparsed, hlead⟩ site fault hr
    cases site with
    | file path =>
      obtain ⟨m, hm, rfl, hk, hno⟩ := (h.reported_file_iff hfree).1 ⟨fault, hr⟩
      exact hno (hparsed m hm hk)
    | declaration path position =>
      obtain ⟨p, block, d, hp, hi, hd, hs⟩ := (reported_declaration_iff hfree).1 ⟨fault, hr⟩
      exact hs (hlead _ p block hp hi d (List.mem_of_getElem? hd)).1

theorem allNamed_of_allLead (hall : AllLead parse (rootOf t file) g) :
    AllNamed parse (rootOf t file) g := by
  rintro path block ⟨p, hp, hi⟩ d hd
  have hc := (hall _ p block hp hi d hd).2
  rwa [hp.path_rootOf] at hc

/-- If no block declares a name twice, a declaration that names a module leads to it. -/
theorem allLead_of_allNamed (h : Built parse (rootOf t file) g)
    (hfree : ¬Obstructed parse t file)
    (hn : ∀ path block, Scanned parse (rootOf t file) path block →
      (block.declarations.map Declaration.name).Nodup)
    (hall : AllNamed parse (rootOf t file) g) : AllLead parse (rootOf t file) g := by
  intro segments p block hp hi d hd
  have hscanned : Scanned parse (rootOf t file) ⟨segments⟩ block := ⟨p, hp, hi⟩
  obtain ⟨q, block', d', c, hq, hi', hd', hname, hc⟩ :=
    h.contains_child_iff.1 (hall _ block hscanned d hd)
  obtain rfl := hq.unique hp
  obtain rfl := Except.ok.inj (hi'.symm.trans hi)
  obtain rfl := List.inj_on_of_nodup_map (hn _ _ hscanned) hd' hd hname
  have hs := (hp.sound_iff hfree hi hd).2 ⟨c, hc⟩
  exact ⟨hs, h.contains_of_sound hfree hp hi hd hs⟩

end Built

/-! ## A name that is declared twice -/

namespace Sample

/-- A crate that declares a module twice, once with a body and once in a file that is not there. -/
def twiceSource : String := "mod a\x7b\x7dmod a;"

/-- The syntax tree of that crate. -/
def twiceRoot : Node :=
  node "source_file" twiceSource 0 none [
    node "mod_item" "mod a\x7b\x7d" 0 none [
      mark "mod" 0,
      node "identifier" "a" 4 (some "name") [],
      node "declaration_list" "\x7b\x7d" 5 (some "body") [
        mark "\x7b" 5,
        mark "\x7d" 6]],
    node "mod_item" "mod a;" 7 none [
      mark "mod" 7,
      node "identifier" "a" 11 (some "name") [],
      mark ";" 12]]

/-- The two declarations of that crate. -/
def twiceBlock : Block := .mk [.mk "a" none (some (.mk [] [])), .mk "a" none none] []

/-- The module of the first declaration. -/
def embedded : Pending (tree twiceSource) where
  place := ⟨⟨["a"]⟩, rootFile, .inline, ⟨.top, ["a"]⟩⟩
  above := [["lib.rs"]]
  body := some (.mk [] [])
  fresh := by simp

/-- What is wrong with the second declaration. -/
def missing : Diagnostic :=
  .noModuleFile "a" [⟨.top, ["a.rs"]⟩, ⟨.top, ["a", "mod.rs"]⟩] (some rootFile)

theorem items_twiceRoot :
    (rootOf (tree twiceSource) rootFile).items (parser twiceSource twiceRoot)
      = .ok twiceBlock := by
  have hblock : Block.ofNode twiceRoot = twiceBlock := by cbv
  rw [items_of_readText (by cbv) rfl, hblock]

theorem declare_missing :
    (rootOf (tree twiceSource) rootFile).declare (.mk "a" none none)
      = .error (.diagnostic missing) := by
  cbv

/-- The crate has two modules. -/
theorem visits_twiceRoot :
    Visits (parser twiceSource twiceRoot) [rootOf (tree twiceSource) rootFile]
      [rootOf (tree twiceSource) rootFile, embedded] := by
  have hembedded : (rootOf (tree twiceSource) rootFile).declare (.mk "a" none (some (.mk [] [])))
      = .ok embedded := by cbv
  exact .opened items_twiceRoot (.first hembedded (by simp) (.skipped declare_missing .nil))
    (.opened (p := embedded) rfl .nil .done)

theorem exists_built_twiceRoot :
    ∃ g, (graph (parser twiceSource twiceRoot) (tree twiceSource) "demo" rootFile).result
        = .ok g ∧
      Built (parser twiceSource twiceRoot) (rootOf (tree twiceSource) rootFile) g :=
  visits_twiceRoot.exists_built "demo" (canonical_tree twiceSource)

theorem declared_embedded :
    Declared (parser twiceSource twiceRoot) (rootOf (tree twiceSource) rootFile) ["a"] embedded :=
  (visits_twiceRoot.mem_iff (p := embedded)).1 (by simp)

/-- The second declaration is wrong. -/
theorem reported_missing :
    Reported (parser twiceSource twiceRoot) (rootOf (tree twiceSource) rootFile)
      (.declaration .root 1) missing :=
  Declared.root.reported_of_mem ((Pending.mem_reports_of_ok items_twiceRoot).2
    ⟨1, .mk "a" none none, missing, rfl, declare_missing, rfl⟩)

end Sample

/-! ## Nothing is lost -/

/-- **Nothing is lost silently.**  The diagnostics of a graph are those of the sites at which
something is wrong, one for each site and no others.  These sites are the files of the modules that
have no block, and the declarations that are not sound.  There are none exactly if all files were
parsed and all declarations lead to modules; where no block declares a name twice, exactly if all
files were parsed and all declarations name modules. -/
theorem graph_diagnostics_exact {unit : String} {g : ModuleGraph}
    (h : (graph parse t unit file).result = .ok g) :
    (∃ found : List (Site × Diagnostic), (found.map Prod.fst).Nodup ∧
      (∀ site fault, (site, fault) ∈ found ↔ Reported parse (rootOf t file) site fault) ∧
      g.diagnostics = found.map Prod.snd) ∧
    (∀ path, (∃ fault, Reported parse (rootOf t file) (.file path) fault) ↔
      ∃ m ∈ g.modules, m.path = path ∧ m.kind ≠ .inline ∧
        ¬∃ block, Scanned parse (rootOf t file) path block) ∧
    (∀ path position,
      (∃ fault, Reported parse (rootOf t file) (.declaration path position) fault) ↔
        ∃ p block d, Declared parse (rootOf t file) path.segments p ∧
          p.items parse = .ok block ∧ block.declarations[position]? = some d ∧
          ¬Sound parse (rootOf t file) path.segments p d) ∧
    (g.diagnostics = [] ↔
      AllParsed parse (rootOf t file) g ∧ AllLead parse (rootOf t file) g) ∧
    ((∀ path block, Scanned parse (rootOf t file) path block →
        (block.declarations.map Declaration.name).Nodup) →
      (g.diagnostics = [] ↔
        AllParsed parse (rootOf t file) g ∧ AllNamed parse (rootOf t file) g)) := by
  have hb := built_of_graph h
  have hfree := not_obstructed_of_graph h
  have hempty : g.diagnostics = [] ↔
      AllParsed parse (rootOf t file) g ∧ AllLead parse (rootOf t file) g :=
    (diagnostics_eq_nil_iff h).trans (hb.forall_not_reported_iff hfree)
  refine ⟨exists_reports h, fun path => hb.reported_file_iff hfree,
    fun path position => reported_declaration_iff hfree, hempty, fun hn => ?_⟩
  refine hempty.trans (and_congr_right fun _ => ?_)
  exact ⟨Built.allNamed_of_allLead, hb.allLead_of_allNamed hfree hn⟩

/-- In `mod a {} mod a;` the second declaration is reported. -/
theorem second_declaration_reported :
    ∃ g, (graph (Sample.parser Sample.twiceSource Sample.twiceRoot)
        (Sample.tree Sample.twiceSource) "demo" Sample.rootFile).result = .ok g ∧
      Sample.missing ∈ g.diagnostics := by
  obtain ⟨g, hg, -⟩ := Sample.exists_built_twiceRoot
  obtain ⟨⟨found, -, hfound, hdiagnostics⟩, -⟩ := graph_diagnostics_exact hg
  refine ⟨g, hg, ?_⟩
  rw [hdiagnostics]
  exact List.mem_map.2 ⟨_, (hfound _ _).2 Sample.reported_missing, rfl⟩

/-- And yet every file of that crate was parsed, and every declaration names a module of the
graph. -/
theorem reported_though_named :
    ∃ g, (graph (Sample.parser Sample.twiceSource Sample.twiceRoot)
        (Sample.tree Sample.twiceSource) "demo" Sample.rootFile).result = .ok g ∧
      AllParsed (Sample.parser Sample.twiceSource Sample.twiceRoot)
        (rootOf (Sample.tree Sample.twiceSource) Sample.rootFile) g ∧
      AllNamed (Sample.parser Sample.twiceSource Sample.twiceRoot)
        (rootOf (Sample.tree Sample.twiceSource) Sample.rootFile) g ∧
      g.diagnostics ≠ [] := by
  obtain ⟨g, hg, hb⟩ := Sample.exists_built_twiceRoot
  refine ⟨g, hg, fun m hm _ => ?_, ?_, fun hempty => ?_⟩
  · obtain ⟨p, hp, rfl⟩ := hb.mem_modules.1 hm
    have hvisited := Sample.visits_twiceRoot.mem_iff.2 hp
    simp only [List.mem_cons, List.not_mem_nil, or_false] at hvisited
    rcases hvisited with rfl | rfl
    · exact ⟨_, _, hp, Sample.items_twiceRoot⟩
    · exact ⟨_, _, hp, rfl⟩
  · rintro path block ⟨p, hp, hi⟩ d hd
    have hpath : p.place.path = path := hp.path_rootOf
    subst hpath
    have hvisited := Sample.visits_twiceRoot.mem_iff.2 hp
    simp only [List.mem_cons, List.not_mem_nil, or_false] at hvisited
    rcases hvisited with rfl | rfl
    · cases hi.symm.trans Sample.items_twiceRoot
      have hname : d.name = "a" := by
        rcases List.mem_cons.1 hd with rfl | hd
        · rfl
        · obtain rfl := List.mem_singleton.1 hd
          rfl
      rw [hname]
      exact hb.contains_iff.2 ⟨_, Sample.declared_embedded⟩
    · cases hi
      cases hd
  · exact (diagnostics_eq_nil_iff hg).1 hempty _ _ Sample.reported_missing

end Build

end CrateAtlas
