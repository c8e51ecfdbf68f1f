import CrateAtlas.Analysis
import CrateAtlas.Proofs.Diagnostics
import CrateAtlas.Proofs.PrunedTree
import CrateAtlas.Proofs.TreeShape

/-!
# The analysis of several crates

Crates are analysed one after the other, and what comes of one of them is added to what is there
already.  So the graphs and the diagnostics of a workspace are those of its crates, in order
(`Analysis.exists_ofUnits`): a crate whose root can be read has a graph, and any other one has a
diagnostic of its own.

Exclusions come last, graph by graph, and leave the diagnostics of a graph alone.  Hence **no
exclusion hides what is wrong** (`Analysis.analysis_of_crates`): the diagnostics of a workspace do
not depend on what is excluded from its graphs.

There is one way in which a crate can take the others down.  What the building of its graph runs
into (`Build.Obstructed`) does not only keep the crate from having a graph, it ends the analysis of
all of them: a path with the null character is enough (`Analysis.analysis_of_null_override`).
-/

set_option autoImplicit false

namespace CrateAtlas

open Build (Meets Obstructed)

variable {parse : Source.Parser} {t : FileTree}

/-- Whether the root file of a crate can be read. -/
def CrateUnit.isReadable (t : FileTree) (u : CrateUnit) : Bool :=
  (Source.readText t (t.resolve u.rootFile)).isOk

/-- A crate with a graph has a root that can be read. -/
theorem Build.isReadable_of_graph {u : CrateUnit} {g : ModuleGraph}
    (h : (Build.graph parse t u.name u.rootFile).result = .ok g) : u.isReadable t = true := by
  cases hread : Source.readText t (t.resolve u.rootFile) with
  | ok text =>
    rw [CrateUnit.isReadable, hread]
    rfl
  | error d =>
    obtain ⟨reason, rfl⟩ := Source.readText_eq_error hread
    cases h.symm.trans (graph_of_unreadable_root u.name (graph_eq_ok h).1 hread)

/-- **What comes of a crate**, unless its building runs into something: a graph if its root can be
read, and a diagnostic if not. -/
theorem Build.graph_of_not_obstructed (u : CrateUnit) (h : ¬Obstructed parse t u.rootFile) :
    (∃ g, u.isReadable t = true ∧ (Build.graph parse t u.name u.rootFile).result = .ok g) ∨
    ∃ reason, u.isReadable t = false ∧
      Source.readText t (t.resolve u.rootFile)
        = .error (.unreadable (t.resolve u.rootFile) reason) ∧
      (Build.graph parse t u.name u.rootFile).result
        = .error (.diagnostic (.unreadable (t.resolve u.rootFile) reason)) := by
  rcases graph_cases parse t u.name u.rootFile with ⟨f, hf, -⟩ | ⟨reason, hread, hg⟩ | ⟨g, hg⟩
  · exact absurd ⟨f, hf⟩ h
  · refine .inr ⟨reason, ?_, hread, hg⟩
    rw [CrateUnit.isReadable, hread]
    rfl
  · exact .inl ⟨g, isReadable_of_graph hg, hg⟩

namespace Analysis

variable {exclude : List String} {tests : Bool} {u : CrateUnit} {units : List CrateUnit}
  {a : Analysis}

/-! ## One crate after the other -/

theorem result_ofUnits_of_ok {g : ModuleGraph}
    (h : (Build.graph parse t u.name u.rootFile).result = .ok g) :
    (ofUnits parse t exclude tests (u :: units) a).result
      = (ofUnits parse t exclude tests units
          { a with graphs := a.graphs ++ [g.exclude exclude tests] }).result := by
  simp only [ofUnits, Logged.result_after, h]

theorem result_ofUnits_of_diagnostic {d : Diagnostic}
    (h : (Build.graph parse t u.name u.rootFile).result = .error (.diagnostic d)) :
    (ofUnits parse t exclude tests (u :: units) a).result
      = (ofUnits parse t exclude tests units { a with errors := a.errors ++ [d] }).result := by
  simp only [ofUnits, Logged.result_after, h]

theorem result_ofUnits_of_fatal {f : Failure} (hf : f.isFatal = true)
    (h : (Build.graph parse t u.name u.rootFile).result = .error f) :
    (ofUnits parse t exclude tests (u :: units) a).result = .error f := by
  cases f with
  | diagnostic d => cases hf
  | _ => simp only [ofUnits, Logged.result_after, h, Logged.result_fail]

/-! ## All crates -/

/-- These are the graphs of the crates whose root can be read, in order. -/
def AreGraphs (parse : Source.Parser) (t : FileTree) (units : List CrateUnit)
    (graphs : List ModuleGraph) : Prop :=
  List.Forall₂ (fun u g => (Build.graph parse t u.name u.rootFile).result = .ok g)
    (units.filter (CrateUnit.isReadable t)) graphs

/-- These are the diagnostics of the crates whose root cannot be read, in order. -/
def AreLost (t : FileTree) (units : List CrateUnit) (lost : List Diagnostic) : Prop :=
  List.Forall₂ (fun u d => Source.readText t (t.resolve u.rootFile) = .error d ∧
      ∃ reason, d = .unreadable (t.resolve u.rootFile) reason)
    (units.filter fun u => !u.isReadable t) lost

/-- **The analysis adds what comes of each crate**, whatever is excluded. -/
theorem exists_ofUnits (h : ∀ u ∈ units, ¬Obstructed parse t u.rootFile) :
    ∃ graphs lost, AreGraphs parse t units graphs ∧ AreLost t units lost ∧
      ∀ (exclude : List String) (tests : Bool) (a : Analysis),
        (ofUnits parse t exclude tests units a).result
          = .ok ⟨a.graphs ++ graphs.map fun g => g.exclude exclude tests, a.errors ++ lost⟩ := by
  induction units with
  | nil => exact ⟨[], [], .nil, .nil, fun exclude tests a => by simp [ofUnits]⟩
  | cons u units ih =>
    obtain ⟨hu, hunits⟩ := List.forall_mem_cons.1 h
    obtain ⟨graphs, lost, hgraphs, hlost, hresult⟩ := ih hunits
    rcases Build.graph_of_not_obstructed u hu with ⟨g, hr, hg⟩ | ⟨reason, hr, hread, hg⟩
    · refine ⟨g :: graphs, lost, ?_, ?_, fun exclude tests a => ?_⟩
      · rw [AreGraphs, List.filter_cons_of_pos hr]
        exact .cons hg hgraphs
      · rw [AreLost, List.filter_cons_of_neg (by simp [hr])]
        exact hlost
      · rw [result_ofUnits_of_ok hg, hresult]
        simp
    · refine ⟨graphs, .unreadable (t.resolve u.rootFile) reason :: lost, ?_, ?_,
        fun exclude tests a => ?_⟩
      · rw [AreGraphs, List.filter_cons_of_neg (by simp [hr])]
        exact hgraphs
      · rw [AreLost, List.filter_cons_of_pos (by simp [hr])]
        exact .cons ⟨hread, reason, rfl⟩ hlost
      · rw [result_ofUnits_of_diagnostic hg, hresult]
        simp

/-- `u` is the first of the crates whose building runs into something. -/
def IsFirstObstructed (parse : Source.Parser) (t : FileTree) (units : List CrateUnit)
    (u : CrateUnit) : Prop :=
  ∃ before after, units = before ++ u :: after ∧
    (∀ v ∈ before, ¬Obstructed parse t v.rootFile) ∧ Obstructed parse t u.rootFile

/-- **The first crate whose building runs into something ends the analysis of all**, whatever is
excluded. -/
theorem ofUnits_of_obstructed (h : ∃ u ∈ units, Obstructed parse t u.rootFile) :
    ∃ u f, IsFirstObstructed parse t units u ∧ Meets parse t u.rootFile f ∧
      ∀ (exclude : List String) (tests : Bool) (a : Analysis),
        (ofUnits parse t exclude tests units a).result = .error f := by
  induction units with
  | nil => simp at h
  | cons u units ih =>
    by_cases hu : Obstructed parse t u.rootFile
    · obtain ⟨f, hf, hg⟩ := Build.exists_graph_eq_error u.name hu
      exact ⟨u, f, ⟨[], units, rfl, by simp, hu⟩, hf,
        fun exclude tests a => result_ofUnits_of_fatal hf.isFatal hg⟩
    · have hrest : ∃ v ∈ units, Obstructed parse t v.rootFile := by simpa [hu] using h
      obtain ⟨v, f, ⟨before, after, rfl, hbefore, hv⟩, hf, hresult⟩ := ih hrest
      refine ⟨v, f, ⟨u :: before, after, rfl, List.forall_mem_cons.2 ⟨hu, hbefore⟩, hv⟩, hf,
        fun exclude tests a => ?_⟩
      rcases Build.graph_of_not_obstructed u hu with ⟨g, -, hg⟩ | ⟨reason, -, -, hg⟩
      · rw [result_ofUnits_of_ok hg, hresult]
      · rw [result_ofUnits_of_diagnostic hg, hresult]

theorem diagnostics_map_exclude (graphs : List ModuleGraph) (errors : List Diagnostic)
    (exclude : List String) (tests : Bool) :
    (⟨graphs.map fun g => g.exclude exclude tests, errors⟩ : Analysis).diagnostics
      = errors ++ graphs.flatMap ModuleGraph.diagnostics := by
  rw [diagnostics, List.flatMap_map]
  exact congrArg _ (List.flatMap_congr fun g _ => (g.exclude_frame exclude tests).2.2.1)

theorem result_ofDirectory {directory : Path} {e : Workspace.Enumeration}
    (h : (Workspace.discover t directory).result = .ok e) :
    (ofDirectory parse t directory exclude tests).result
      = (ofUnits parse t exclude tests e.units ⟨[], e.errors⟩).result := by
  rw [ofDirectory, Logged.result_andThen, h]

/-- The analysis of the crates at a directory, whatever is excluded. -/
theorem exists_ofDirectory {directory : Path} {e : Workspace.Enumeration}
    (h : (Workspace.discover t directory).result = .ok e)
    (hfree : ∀ u ∈ e.units, ¬Obstructed parse t u.rootFile) :
    ∃ graphs lost, AreGraphs parse t e.units graphs ∧ AreLost t e.units lost ∧
      ∀ exclude tests, (ofDirectory parse t directory exclude tests).result
        = .ok ⟨graphs.map fun g => g.exclude exclude tests, e.errors ++ lost⟩ := by
  obtain ⟨graphs, lost, hgraphs, hlost, hresult⟩ := exists_ofUnits hfree
  refine ⟨graphs, lost, hgraphs, hlost, fun exclude tests => ?_⟩
  rw [result_ofDirectory h, hresult]
  rfl

/-- **The crates of a workspace are analysed one by one, and no exclusion hides what is wrong.**
The first crate whose building runs into something ends the analysis, with a failure that does not
depend on what is excluded.  If there is none, there are the graphs of the crates whose root can be
read, and a diagnostic for each of the others; and whatever is excluded, the analysis has those
graphs without what is excluded, and the diagnostics of the enumeration, of the crates and of the
whole graphs. -/
theorem analysis_of_crates {directory : Path} {e : Workspace.Enumeration}
    (h : (Workspace.discover t directory).result = .ok e) (parse : Source.Parser) :
    ((∃ u ∈ e.units, Obstructed parse t u.rootFile) →
      ∃ u f, IsFirstObstructed parse t e.units u ∧ Meets parse t u.rootFile f ∧
        ∀ exclude tests, (ofDirectory parse t directory exclude tests).result = .error f) ∧
    ((∀ u ∈ e.units, ¬Obstructed parse t u.rootFile) →
      ∃ graphs lost, AreGraphs parse t e.units graphs ∧ AreLost t e.units lost ∧
        ∀ exclude tests, ∃ a, (ofDirectory parse t directory exclude tests).result = .ok a ∧
          a.graphs = graphs.map (fun g => g.exclude exclude tests) ∧
          a.errors = e.errors ++ lost ∧
          a.diagnostics = e.errors ++ lost ++ graphs.flatMap ModuleGraph.diagnostics) := by
  refine ⟨fun hmet => ?_, fun hfree => ?_⟩
  · obtain ⟨u, f, hu, hf, hresult⟩ := ofUnits_of_obstructed hmet
    refine ⟨u, f, hu, hf, fun exclude tests => ?_⟩
    rw [result_ofDirectory h, hresult]
  · obtain ⟨graphs, lost, hgraphs, hlost, hresult⟩ := exists_ofDirectory h hfree
    refine ⟨graphs, lost, hgraphs, hlost, fun exclude tests => ?_⟩
    exact ⟨_, hresult exclude tests, rfl, rfl, diagnostics_map_exclude graphs _ exclude tests⟩

end Analysis

/-! ## A crate with a module that is not there -/

namespace Build.Sample

/-- A tree with one crate, which has no manifest and the given root. -/
def crateTree (octets : List Nat) : FileTree :=
  { entries := [(["demo"], .directory), (["demo", "src"], .directory),
      (["demo", "src", "lib.rs"], .file octets)],
    here := [] }

/-- The crate in that tree. -/
def demo : CrateUnit := ⟨"demo", ⟨.top, ["demo"]⟩, ⟨.top, ["demo", "src", "lib.rs"]⟩⟩

/-- A root whose only module has a `path` attribute that leads nowhere. -/
def lostSource : String := "#[path=\"b\"]mod a;"

/-- The syntax tree of that root. -/
def lostRoot : Node :=
  node "source_file" lostSource 0 none [
    node "attribute_item" "#[path=\"b\"]" 0 none [
      mark "#" 0,
      mark "[" 1,
      node "attribute" "path=\"b\"" 2 none [
        node "identifier" "path" 2 none [],
        mark "=" 6,
        node "string_literal" "\"b\"" 7 (some "value") []],
      mark "]" 10],
    node "mod_item" "mod a;" 11 none [
      mark "mod" 11,
      node "identifier" "a" 15 (some "name") [],
      mark ";" 16]]

/-- The tree with that root. -/
def lostTree : FileTree := crateTree (lostSource.toList.map Char.toNat)

/-- Where the module should be. -/
def lostFile : Path := ⟨.top, ["demo", "src", "b"]⟩

/-- What is wrong with the module. -/
def lostFault : Diagnostic := .unreadable lostFile AccessFault.missing.message

/-- The tree with a root that has the null character in a path. -/
def nullTree : FileTree := crateTree (nullSource.toList.map Char.toNat)

theorem discover_crateTree (octets : List Nat) :
    (Workspace.discover (crateTree octets) demo.directory).result = .ok ⟨[demo], []⟩ := by
  cbv

theorem discover_lostTree :
    (Workspace.discover lostTree demo.directory).result = .ok ⟨[demo], []⟩ :=
  discover_crateTree _

/-- The module that is not there. -/
def lostModule : Pending lostTree where
  place := ⟨⟨["a"]⟩, lostFile, .external, ⟨.top, ["demo", "src"]⟩⟩
  above := [["demo", "src", "lib.rs"]]
  body := none
  fresh := by
    have htarget : lostTree.target lostFile = ["demo", "src", "b"] := by cbv
    simp [htarget]

/-- The crate has a graph, with the fault of the module among its diagnostics. -/
theorem exists_graph_lostRoot :
    ∃ g, (graph (parser lostSource lostRoot) lostTree demo.name demo.rootFile).result = .ok g ∧
      g.diagnostics = [lostFault] := by
  have hblock : Block.ofNode lostRoot = .mk [.mk "a" (some "b") none] [] := by cbv
  have hroot : (rootOf lostTree demo.rootFile).items (parser lostSource lostRoot)
      = .ok (.mk [.mk "a" (some "b") none] []) := by
    rw [items_of_readText (by cbv) rfl, hblock]
  have hdeclare : (rootOf lostTree demo.rootFile).declare (.mk "a" (some "b") none)
      = .ok lostModule := by cbv
  have hlost : lostModule.items (parser lostSource lostRoot) = .error lostFault := by
    have hread : lostTree.read lostFile = .error .missing := by cbv
    show Source.readBlock (parser lostSource lostRoot) lostTree lostFile = _
    rw [Source.readBlock, Source.readText, hread, lostFault]
  have hvisits : Visits (parser lostSource lostRoot) [rootOf lostTree demo.rootFile]
      [rootOf lostTree demo.rootFile, lostModule] :=
    .opened hroot (.first hdeclare (by simp) .nil) (.lost hlost (by decide) .done)
  obtain ⟨g, hg, -⟩ := hvisits.exists_built demo.name (by cbv)
  refine ⟨g, hg, ?_⟩
  rw [diagnostics_of_graph hg, hvisits.order_eq]
  simp [Pending.reports, hroot, hlost, Block.declarations, Pending.skip?, hdeclare]

theorem discover_nullTree :
    (Workspace.discover nullTree demo.directory).result = .ok ⟨[demo], []⟩ :=
  discover_crateTree _

theorem readText_nullTree :
    Source.readText nullTree (nullTree.resolve demo.rootFile) = .ok nullSource := by
  cbv

theorem graph_nullTree :
    (graph (parser nullSource nullRoot) nullTree demo.name demo.rootFile).result
      = .error .nullInPath :=
  graph_of_fatal_root demo.name (by cbv)
    (by rw [Pending.fatal?, items_nullRoot readText_nullTree]; cbv)

end Build.Sample

namespace Analysis

open Build.Sample

theorem not_obstructed_lostTree :
    ∀ u ∈ [demo], ¬Obstructed (parser lostSource lostRoot) lostTree u.rootFile := by
  intro u hu
  obtain rfl := List.mem_singleton.1 hu
  obtain ⟨g, hg, -⟩ := exists_graph_lostRoot
  exact Build.not_obstructed_of_graph hg

/-- There is one graph in that tree, and no crate is lost. -/
theorem graphs_lostTree {graphs : List ModuleGraph} {lost : List Diagnostic}
    (hgraphs : AreGraphs (parser lostSource lostRoot) lostTree [demo] graphs)
    (hlost : AreLost lostTree [demo] lost) :
    ∃ g, graphs = [g] ∧ g.diagnostics = [lostFault] ∧ lost = [] := by
  obtain ⟨g, hg, hfault⟩ := exists_graph_lostRoot
  have hreadable : demo.isReadable lostTree = true := Build.isReadable_of_graph hg
  rw [AreGraphs, List.filter_cons_of_pos hreadable, List.filter_nil] at hgraphs
  rw [AreLost, List.filter_cons_of_neg (by simp [hreadable]), List.filter_nil] at hlost
  cases hlost
  obtain ⟨g', _, hg', hnil, rfl⟩ := List.forall₂_cons_left_iff.1 hgraphs
  cases hnil
  cases hg.symm.trans hg'
  exact ⟨g, rfl, hfault, rfl⟩

/-- In the crate with a module that is not there, that module is reported though it is excluded. -/
theorem excluded_module_reported :
    ∃ a, (ofDirectory (parser lostSource lostRoot) lostTree demo.directory ["a"] true).result
        = .ok a ∧ a.diagnostics = [lostFault] ∧
      ∃ g, a.graphs = [g] ∧ g.contains ⟨["a"]⟩ = false := by
  obtain ⟨graphs, lost, hgraphs, hlost, hresult⟩ :=
    (analysis_of_crates discover_lostTree _).2 not_obstructed_lostTree
  obtain ⟨a, ha, hag, -, had⟩ := hresult ["a"] true
  obtain ⟨g, rfl, hfault, rfl⟩ := graphs_lostTree hgraphs hlost
  refine ⟨a, ha, by simp [had, hfault], _, hag, ?_⟩
  rw [Bool.eq_false_iff]
  intro hstays
  obtain ⟨hin, hcut⟩ := ModuleGraph.contains_exclude_iff.1 hstays
  have hmatch : ModuleGraph.isExcluded ["a"] true ⟨["a"]⟩ = true := by cbv
  have hgone := ModuleGraph.isCut_iff.2
    ⟨_, hin, by decide, hmatch, ModulePath.isWithin_iff.2 List.prefix_rfl⟩
  cases hgone.symm.trans hcut

/-- A crate whose root can be read, and whose only module has a path with the null character, takes
the analysis down. -/
theorem analysis_of_null_override :
    ∃ (parse : Source.Parser) (t : FileTree) (directory : Path) (u : CrateUnit),
      (Workspace.discover t directory).result = .ok ⟨[u], []⟩ ∧ u.isReadable t = true ∧
      ∀ exclude tests, (ofDirectory parse t directory exclude tests).result
        = .error .nullInPath := by
  refine ⟨parser nullSource nullRoot, nullTree, demo.directory, demo, discover_nullTree, ?_,
    fun exclude tests => ?_⟩
  · rw [CrateUnit.isReadable, readText_nullTree]
    rfl
  · rw [result_ofDirectory discover_nullTree]
    exact result_ofUnits_of_fatal rfl graph_nullTree

end Analysis

end CrateAtlas
