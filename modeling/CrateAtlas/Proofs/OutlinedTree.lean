import CrateAtlas.Export.Outline
import CrateAtlas.Proofs.Listing
import CrateAtlas.Proofs.Reached
import CrateAtlas.Proofs.Traversal

/-!
# The outline of a module tree

An outline is drawn by a recursion over declarations that does not remember where it has been.  On
some graph it would draw modules more than once, or never end.  On a module tree it draws **every
module once and every edge once**.

* `Entry` — a line of an outline, before it is written.  The recursion over entries is a `Walk`, and
  the lines of an outline are those of the entries that the walk meets (`exists_entries`), provided
  that declarations do not go round in circles.  In a module tree they do not (`acyclic_children`):
  a declared module is one level below the one that declares it.
* `Depicts` — what the entries show: the modules, in pre-order, and the edges.  Below a module stand
  the modules that it declares, and after its name those that it imports from.
* `units` — what stands before a module.  It depends on the module alone, and says of each module
  above whether others follow it.
-/

set_option autoImplicit false

namespace CrateAtlas

open Build

namespace Outline

/-! ## Entries -/

/-- A line of an outline before it is written: what stands before it, the module, and whether it is
the last one that its parent declares. -/
structure Entry where
  lead : String
  path : ModulePath
  isLast : Bool

variable {α : Type} {g : ModuleGraph} {s : Strokes}

theorem map_fst_markLast (l : List α) : (markLast l).map Prod.fst = l := by
  fun_induction markLast l with
  | case1 => rfl
  | case2 a => rfl
  | case3 a rest _ ih => rw [List.map_cons, ih]

/-- The last element is the one that is marked. -/
theorem mark_eq_true_iff {l : List α} (hl : l.Nodup) {a : α} {isLast : Bool}
    (h : (a, isLast) ∈ markLast l) : isLast = true ↔ l.getLast? = some a := by
  fun_induction markLast l with
  | case1 => simp at h
  | case2 b =>
    obtain ⟨rfl, rfl⟩ : a = b ∧ isLast = true := by simpa using h
    simp
  | case3 b rest hne ih =>
    obtain ⟨hb, hrest⟩ := List.nodup_cons.1 hl
    obtain ⟨c, rest, rfl⟩ : ∃ c tail, rest = c :: tail := by
      cases rest with
      | nil => exact absurd rfl hne
      | cons c tail => exact ⟨c, tail, rfl⟩
    rw [List.getLast?_cons_cons]
    rcases List.mem_cons.1 h with heq | h
    · obtain ⟨rfl, rfl⟩ := Prod.mk.inj heq
      exact iff_of_false (by simp) fun hlast => hb (List.mem_of_getLast? hlast)
    · exact ih hrest h

namespace Entry

/-- The entry of the root. -/
def top : Entry := ⟨"", .root, true⟩

/-- The entries directly below an entry. -/
def below (g : ModuleGraph) (s : Strokes) (e : Entry) : List Entry :=
  (markLast (g.children e.path)).map fun c =>
    ⟨e.lead ++ if e.isLast then s.space else s.vertical, c.1, c.2⟩

/-- The line of an entry. -/
def line (g : ModuleGraph) (s : Strokes) (e : Entry) : String :=
  e.lead ++ (if e.isLast then s.last else s.branch) ++ label g e.path

theorem map_path_below (g : ModuleGraph) (s : Strokes) (e : Entry) :
    g.children e.path = (e.below g s).map path := by
  rw [below, List.map_map]
  exact (map_fst_markLast _).symm

end Entry

/-- The lines of a module are those of the entries that the recursion meets. -/
theorem moduleLines_eq (g : ModuleGraph) (s : Strokes) (depth : Nat) (e : Entry) :
    moduleLines g s depth e.lead e.path e.isLast
      = (preorder (Entry.below g s) depth e).map (Entry.line g s) := by
  induction depth generalizing e with
  | zero => rfl
  | succ depth ih =>
    rw [moduleLines, preorder, List.map_cons, List.map_flatMap, Entry.below, List.flatMap_map]
    refine congrArg₂ List.cons rfl (List.flatMap_congr fun c _ => ?_)
    exact ih ⟨_, c.1, c.2⟩

/-- **Without a cycle the recursion comes to an end**, and the outline holds all of its lines. -/
theorem exists_entries (hg : g.WellFormed) (ha : Acyclic g.children .root) (s : Strokes) :
    ∃ entries, Walk (Entry.below g s) [Entry.top] entries ∧
      lines g s = g.unit :: entries.map (Entry.line g s) := by
  have hpaths : ∀ path, g.children path ⊆ g.paths := fun path c hc =>
    ModuleGraph.mem_paths.2 (hg.target_mem _ (ModuleGraph.mem_targetsBy.1 hc))
  have hshallow := shallow_of_acyclic hpaths ha
  rw [ModuleGraph.paths, List.length_map] at hshallow
  have hentries : Shallow (Entry.below g s) (g.modules.length + 1) Entry.top :=
    (shallow_map_iff (Entry.map_path_below g s)).1 hshallow
  refine ⟨_, walk_preorder hentries, ?_⟩
  rw [lines, ← moduleLines_eq]
  rfl

/-! ## The recursion on a module tree -/

theorem mem_children_iff (h : IsModuleTree g) {path child : ModulePath} :
    child ∈ g.children path ↔ g.contains child = true ∧ child.parent? = some path := by
  rw [ModuleGraph.children, ModuleGraph.mem_targetsBy]
  constructor
  · intro he
    exact (h.declares_iff _ he).1 rfl
  · rintro ⟨hc, hp⟩
    exact h.declares_mem _ _ hc hp

theorem length_of_parent? {path parent : ModulePath} (h : path.parent? = some parent) :
    path.segments.length = parent.segments.length + 1 := by
  obtain ⟨name, rfl⟩ := ModulePath.parent?_eq_some_iff.1 h
  simp [ModulePath.child]

/-- Declarations lead down the tree, and so never back. -/
theorem acyclic_children (h : IsModuleTree g) : Acyclic g.children .root := by
  have hdown : ∀ {p q : ModulePath}, Relation.TransGen (fun x y => y ∈ g.children x) p q →
      p.segments.length < q.segments.length := by
    intro p q hpq
    induction hpq with
    | single hq =>
      have := length_of_parent? ((mem_children_iff h).1 hq).2
      omega
    | tail _ hq ih =>
      have := length_of_parent? ((mem_children_iff h).1 hq).2
      omega
  exact fun path _ hcycle => Nat.lt_irrefl _ (hdown hcycle)

/-- Two modules have nothing below them in common. -/
def Apart (p q : ModulePath) : Prop := ∀ x : ModulePath, x.isWithin p = true → x.isWithin q = false

/-- Different children of a module have nothing in common. -/
theorem pairwise_apart_children (hg : g.WellFormed) (h : IsModuleTree g) (path : ModulePath) :
    (g.children path).Pairwise Apart := by
  refine (hg.nodup_targetsBy .declares path).pairwise_of_forall_ne fun p hp q hq hne x hxp => ?_
  rw [Bool.eq_false_iff]
  intro hxq
  have hp := length_of_parent? ((mem_children_iff h).1 hp).2
  have hq := length_of_parent? ((mem_children_iff h).1 hq).2
  have habove := List.prefix_of_prefix_length_le (ModulePath.isWithin_iff.1 hxp)
    (ModulePath.isWithin_iff.1 hxq) (by omega)
  exact hne (congrArg ModulePath.mk (habove.eq_of_length (by omega)))

theorem isWithin_self (path : ModulePath) : path.isWithin path = true :=
  ModulePath.isWithin_iff.2 List.prefix_rfl

/-- What a walk meets lies below what it starts from. -/
theorem exists_isWithin (h : IsModuleTree g) {starts l : List ModulePath}
    (hw : Walk g.children starts l) : ∀ x ∈ l, ∃ a ∈ starts, x.isWithin a = true := by
  refine hw.forall_mem ?_ fun a ha => ⟨a, ha, isWithin_self a⟩
  rintro x ⟨a, ha, hx⟩ y hy
  exact ⟨a, ha, ModulePath.isWithin_trans (isWithin_of_parent? ((mem_children_iff h).1 hy).2) hx⟩

/-- **A walk meets no module twice.** -/
theorem nodup_of_walk (hg : g.WellFormed) (h : IsModuleTree g) {starts l : List ModulePath}
    (hw : Walk g.children starts l) (hapart : starts.Pairwise Apart) : l.Nodup := by
  induction hw with
  | nil => exact List.nodup_nil
  | @cons a rest below after hbelow hafter ihb iha =>
    rw [List.pairwise_cons] at hapart
    -- What comes after lies below something that is apart from `a`.
    have hafter_apart : ∀ x ∈ after, x.isWithin a = false := by
      intro x hx
      obtain ⟨b, hb, hxb⟩ := exists_isWithin h hafter x hx
      rw [Bool.eq_false_iff]
      intro hxa
      cases hxb.symm.trans (hapart.1 b hb x hxa)
    have hbelow_within : ∀ x ∈ below, x.isWithin a = true ∧ x ≠ a := by
      intro x hx
      obtain ⟨c, hc, hxc⟩ := exists_isWithin h hbelow x hx
      have hparent := ((mem_children_iff h).1 hc).2
      refine ⟨ModulePath.isWithin_trans hxc (isWithin_of_parent? hparent), ?_⟩
      rintro rfl
      have hle := (ModulePath.isWithin_iff.1 hxc).length_le
      have := length_of_parent? hparent
      omega
    refine List.nodup_cons.2 ⟨?_, List.nodup_append.2
      ⟨ihb (pairwise_apart_children hg h a), iha hapart.2, ?_⟩⟩
    · rw [List.mem_append, not_or]
      refine ⟨fun ha => (hbelow_within a ha).2 rfl, fun ha => ?_⟩
      cases (isWithin_self a).symm.trans (hafter_apart a ha)
    · rintro x hx _ hy rfl
      cases (hbelow_within x hx).1.symm.trans (hafter_apart x hy)

/-- **A walk from the root meets exactly the modules.** -/
theorem mem_walk_iff (h : IsModuleTree g) {l : List ModulePath}
    (hw : Walk g.children [.root] l) {path : ModulePath} :
    path ∈ l ↔ g.contains path = true := by
  constructor
  · intro hm
    refine hw.forall_mem (fun p _ c hc => ((mem_children_iff h).1 hc).1) ?_ path hm
    simpa using h.root_mem
  · intro hc
    obtain ⟨segments⟩ := path
    -- From the root down to the module, segment by segment.
    induction segments using List.reverseRecOn with
    | nil => exact hw.subset List.mem_cons_self
    | append_singleton init name ih =>
      have hparent : (⟨init ++ [name]⟩ : ModulePath).parent? = some ⟨init⟩ :=
        ModulePath.parent?_eq_some_iff.2 ⟨name, rfl⟩
      have hinit := ih (h.parent_mem _ _ hc hparent)
      exact hw.kids_subset hinit ((mem_children_iff h).2 ⟨hc, hparent⟩)

/-! ## What stands before a module -/

/-- Whether no other module that the same module declares follows; nothing follows the root. -/
def isLastChild (g : ModuleGraph) (path : ModulePath) : Bool :=
  match path.parent? with
  | none => true
  | some parent => (g.children parent).getLast? = some path

/-- What stands before a module and its stroke: one unit for each module above it, from the root
on. -/
def units (g : ModuleGraph) (s : Strokes) (path : ModulePath) : List String :=
  (List.range path.segments.length).map fun n =>
    if isLastChild g ⟨path.segments.take n⟩ then s.space else s.vertical

theorem length_units (g : ModuleGraph) (s : Strokes) (path : ModulePath) :
    (units g s path).length = path.segments.length := by
  simp [units]

theorem units_child (g : ModuleGraph) (s : Strokes) (path : ModulePath) (name : String) :
    units g s (path.child name)
      = units g s path ++ [if isLastChild g path then s.space else s.vertical] := by
  rw [units, units, ModulePath.child, List.length_append, List.length_singleton, List.range_succ,
    List.map_append, List.map_singleton, List.take_left]
  refine congrArg₂ _ (List.map_congr_left fun n hn => ?_) rfl
  rw [List.take_append_of_le_length (Nat.le_of_lt (List.mem_range.1 hn))]

/-- An entry is where it belongs: what stands before it, and its mark, are those of its module. -/
def Entry.Placed (g : ModuleGraph) (s : Strokes) (e : Entry) : Prop :=
  e.lead = String.join (units g s e.path) ∧ e.isLast = isLastChild g e.path

theorem Entry.Placed.below {e c : Entry} (he : e.Placed g s) (hg : g.WellFormed)
    (h : IsModuleTree g) (hc : c ∈ e.below g s) : c.Placed g s := by
  obtain ⟨⟨path, isLast⟩, hmark, rfl⟩ := List.mem_map.1 hc
  have hpath : path ∈ g.children e.path := by
    rw [← map_fst_markLast (g.children e.path)]
    exact List.mem_map_of_mem hmark
  have hparent := ((mem_children_iff h).1 hpath).2
  have hlast := mark_eq_true_iff (hg.nodup_targetsBy .declares e.path) hmark
  constructor
  · obtain ⟨name, rfl⟩ := ModulePath.parent?_eq_some_iff.1 hparent
    simp only [units_child, String.join_append, String.join_cons, String.join_nil,
      String.append_empty, he.1, he.2]
  · rw [Bool.eq_iff_iff, hlast, isLastChild, hparent, decide_eq_true_iff]
    rfl

/-- Every entry of a walk is where it belongs. -/
theorem placed_of_mem (hg : g.WellFormed) (h : IsModuleTree g) {entries : List Entry}
    (hw : Walk (Entry.below g s) [Entry.top] entries) {e : Entry} (he : e ∈ entries) :
    e.Placed g s := by
  refine hw.forall_mem (fun d hd c hc => hd.below hg h hc) ?_ e he
  rw [List.forall_mem_singleton]
  exact ⟨rfl, rfl⟩

/-! ## What stands after a name -/

/-- What stands after the name of a module that imports from the given ones. -/
def arrow (targets : List ModulePath) : String :=
  if targets = [] then "" else " -> " ++ ", ".intercalate (targets.map ModulePath.render)

theorem label_eq (g : ModuleGraph) (path : ModulePath) :
    label g path = path.name ++ arrow (g.targetsBy .imports path) := by
  rw [label, arrow]
  cases g.targetsBy .imports path with
  | nil => simp
  | cons target rest => simp [String.append_assoc]

/-! ## What an outline shows -/

/-- How far an entry is indented. -/
def Entry.indent (e : Entry) : Nat := e.lead.length

theorem length_strokes (style : String) :
    (strokes style).space.length = 4 ∧ (strokes style).vertical.length = 4 := by
  rw [strokes]
  split
  · exact ⟨rfl, rfl⟩
  · exact ⟨rfl, rfl⟩

/-- **What the entries of an outline show of a graph.** -/
structure Depicts (g : ModuleGraph) (s : Strokes) (entries : List Entry) : Prop where
  /-- The recursion comes to an end, and these are its entries. -/
  walk : Walk (Entry.below g s) [Entry.top] entries
  /-- The modules are met in pre-order, -/
  preorder : Walk g.children [.root] (entries.map Entry.path)
  /-- with the modules that a module declares in the order of their written paths; -/
  children_lt : ∀ path, (g.children path).Pairwise fun p q => p.render < q.render
  /-- and each module of the graph is met once. -/
  paths_perm : (entries.map Entry.path).Perm g.paths
  /-- Before the stroke of a module stands one unit for each module above it. -/
  lead_eq : ∀ e ∈ entries, e.lead = String.join (units g s e.path) ∧
    (units g s e.path).length = e.path.segments.length ∧ ∀ u ∈ units g s e.path, u.length = 4
  /-- After its name stand the modules that it imports from, each once and in order. -/
  imports : ∀ e ∈ entries, ∃ targets : List ModulePath,
    (∀ target, target ∈ targets ↔ ⟨e.path, target, .imports⟩ ∈ g.edges) ∧ targets.Nodup ∧
      (targets.Pairwise fun p q => p.render ≤ q.render) ∧
      e.line g s = e.lead ++ (if isLastChild g e.path then s.last else s.branch) ++
        (e.path.name ++ arrow targets)
  /-- There is such a line for every module with an edge to another one. -/
  source_mem : ∀ e ∈ g.edges, e.source ∈ entries.map Entry.path
  /-- The modules that a module declares are those that stand directly below it. -/
  declares_iff : ∀ source target, ⟨source, target, .declares⟩ ∈ g.edges ↔
    ∃ d e, Nested Entry.indent 4 entries d e ∧ d.path = source ∧ e.path = target

/-- Modules that the same module declares have different written paths. -/
theorem pairwise_lt_children (hg : g.WellFormed) (h : IsModuleTree g) (path : ModulePath) :
    (g.children path).Pairwise fun p q => p.render < q.render := by
  have hle := ModuleGraph.pairwise_targetsBy g .declares path
  have hne := hg.nodup_targetsBy .declares path
  refine (hle.and hne).imp_of_mem fun {p q} hp hq hpq => ?_
  obtain ⟨m, rfl⟩ := ModulePath.parent?_eq_some_iff.1 ((mem_children_iff h).1 hp).2
  obtain ⟨n, rfl⟩ := ModulePath.parent?_eq_some_iff.1 ((mem_children_iff h).1 hq).2
  refine lt_of_le_of_ne hpq.1 fun hrender => hpq.2 ?_
  rw [ModulePath.render_child_inj.1 hrender]

/-- What stands below an entry is indented by one unit more. -/
theorem indent_below (style : String) {d e : Entry} (he : e ∈ d.below g (strokes style)) :
    e.indent = d.indent + 4 := by
  obtain ⟨c, -, rfl⟩ := List.mem_map.1 he
  obtain ⟨hspace, hvertical⟩ := length_strokes style
  rw [Entry.indent, Entry.indent, String.length_append]
  split
  · rw [hspace]
  · rw [hvertical]

section Entries

variable {entries : List Entry}

theorem walk_paths (hw : Walk (Entry.below g s) [Entry.top] entries) :
    Walk g.children [.root] (entries.map Entry.path) :=
  hw.map (Entry.map_path_below g s)

theorem mem_paths_iff (h : IsModuleTree g) (hw : Walk (Entry.below g s) [Entry.top] entries)
    {path : ModulePath} : path ∈ entries.map Entry.path ↔ g.contains path = true :=
  mem_walk_iff h (walk_paths hw)

theorem nodup_paths_entries (hg : g.WellFormed) (h : IsModuleTree g)
    (hw : Walk (Entry.below g s) [Entry.top] entries) : (entries.map Entry.path).Nodup :=
  nodup_of_walk hg h (walk_paths hw) (List.pairwise_singleton _ _)

/-- An entry is directly below another one if its module is declared by that of the other. -/
theorem mem_below_iff (hg : g.WellFormed) (h : IsModuleTree g)
    (hw : Walk (Entry.below g s) [Entry.top] entries) {d e : Entry} (hd : d ∈ entries)
    (he : e ∈ entries) : e ∈ d.below g s ↔ ⟨d.path, e.path, .declares⟩ ∈ g.edges := by
  rw [← ModuleGraph.mem_targetsBy, ← ModuleGraph.children, Entry.map_path_below g s, List.mem_map]
  constructor
  · intro hbelow
    exact ⟨e, hbelow, rfl⟩
  · rintro ⟨c, hc, hpath⟩
    have hentry : c ∈ entries := hw.kids_subset hd hc
    rwa [← List.inj_on_of_nodup_map (nodup_paths_entries hg h hw) hentry he hpath]

theorem nested_iff (hg : g.WellFormed) (h : IsModuleTree g) {style : String}
    (hw : Walk (Entry.below g (strokes style)) [Entry.top] entries) {d e : Entry}
    (hd : d ∈ entries) (he : e ∈ entries) :
    Nested Entry.indent 4 entries d e ↔ ⟨d.path, e.path, .declares⟩ ∈ g.edges := by
  have hnodup := nodup_paths_entries hg h hw
  have hparent : ∀ {d e : Entry}, e ∈ d.below g (strokes style) →
      e.path.parent? = some d.path := by
    intro d e he
    refine ((mem_children_iff h).1 ?_).2
    rw [Entry.map_path_below g (strokes style)]
    exact List.mem_map_of_mem he
  rw [← mem_below_iff hg h hw hd he]
  refine hw.nested_iff (fun _ _ => indent_below style) (by omega) hnodup.of_map ?_ hd
  intro d hd d' hd' e he he'
  have hpath : d.path = d'.path := Option.some.inj ((hparent he).symm.trans (hparent he'))
  exact List.inj_on_of_nodup_map hnodup hd hd' hpath

/-- **The entries of a module tree show all of it.** -/
theorem depicts_of_walk (hg : g.WellFormed) (h : IsModuleTree g) (style : String)
    (hw : Walk (Entry.below g (strokes style)) [Entry.top] entries) :
    Depicts g (strokes style) entries where
  walk := hw
  preorder := walk_paths hw
  children_lt := pairwise_lt_children hg h
  paths_perm := by
    refine (List.perm_ext_iff_of_nodup (nodup_paths_entries hg h hw) hg.nodup_paths).2 fun p => ?_
    rw [mem_paths_iff h hw, ModuleGraph.mem_paths]
  lead_eq := by
    intro e he
    refine ⟨(placed_of_mem hg h hw he).1, length_units g _ e.path, fun u hu => ?_⟩
    obtain ⟨n, -, rfl⟩ := List.mem_map.1 hu
    obtain ⟨hspace, hvertical⟩ := length_strokes style
    split
    · exact hspace
    · exact hvertical
  imports := by
    intro e he
    refine ⟨g.targetsBy .imports e.path, fun _ => ModuleGraph.mem_targetsBy,
      hg.nodup_targetsBy .imports e.path, ModuleGraph.pairwise_targetsBy g .imports e.path, ?_⟩
    rw [Entry.line, label_eq, (placed_of_mem hg h hw he).2]
  source_mem := fun e he => (mem_paths_iff h hw).2 (hg.source_mem e he)
  declares_iff := by
    intro source target
    constructor
    · intro he
      obtain ⟨d, hd, rfl⟩ := List.mem_map.1 ((mem_paths_iff h hw).2 (hg.source_mem _ he))
      obtain ⟨e, he', rfl⟩ := List.mem_map.1 ((mem_paths_iff h hw).2 (hg.target_mem _ he))
      exact ⟨d, e, (nested_iff hg h hw hd he').2 he, rfl, rfl⟩
    · rintro ⟨d, e, hn, rfl, rfl⟩
      exact (nested_iff hg h hw hn.mem_left hn.mem_right).1 hn

end Entries

/-- **The outline of a crate shows every module once and every edge once**, in both styles and
after any number of exclusions.  The recursion comes to an end, after the name of the crate there is
a line for each module, and `Depicts` says what the lines show. -/
theorem outline_depicts_graph {t : FileTree} {parse : Source.Parser} {unit : String} {file : Path}
    (h : (Build.graph parse t unit file).result = .ok g) (steps : List (List String × Bool))
    (style : String) :
    ∃ entries, Depicts (g.excludeAll steps) (strokes style) entries ∧
      text [g.excludeAll steps] style = "\n".intercalate ((g.excludeAll steps).unit ::
        entries.map (Entry.line (g.excludeAll steps) (strokes style))) := by
  have hg := ((reached_graph h).excludeAll steps).wellFormed
  have htree := (built_of_graph h).isModuleTree.excludeAll steps
  obtain ⟨entries, hw, hlines⟩ := exists_entries hg (acyclic_children htree) (strokes style)
  refine ⟨entries, depicts_of_walk hg htree style hw, ?_⟩
  rw [text, List.map_singleton, String.intercalate_singleton, hlines]

/-- In `mod a { use super::*; }` both modules have a line, and the inner one has none without the
modules that match `?`. -/
theorem outline_inner_module :
    ∃ g, (Build.graph (Sample.parser Sample.globSource Sample.globRoot)
        (Sample.tree Sample.globSource) "demo" Sample.rootFile).result = .ok g ∧
      (∃ entries, Depicts (g.excludeAll []) (strokes "ascii") entries ∧ entries.length = 2) ∧
      ∃ entries, Depicts (g.excludeAll [(["?"], false)]) (strokes "tree") entries ∧
        ⟨["a"]⟩ ∉ entries.map Entry.path := by
  obtain ⟨g, hg, hb⟩ := Sample.exists_built_globRoot
  refine ⟨g, hg, ?_, ?_⟩
  · obtain ⟨entries, hd, -⟩ := outline_depicts_graph hg [] "ascii"
    refine ⟨entries, hd, ?_⟩
    have hlength : entries.length = g.modules.length := by
      simpa [ModuleGraph.paths, ModuleGraph.excludeAll] using hd.paths_perm.length_eq
    rw [hlength, hb.modules, Sample.visits_globRoot.order_eq]
    rfl
  · obtain ⟨entries, hd, -⟩ := outline_depicts_graph hg [(["?"], false)] "tree"
    refine ⟨entries, hd, fun hm => ?_⟩
    have hstays : (g.exclude ["?"] false).contains ⟨["a"]⟩ = true :=
      ModuleGraph.mem_paths.1 (hd.paths_perm.mem_iff.1 hm)
    obtain ⟨hc, hcut⟩ := ModuleGraph.contains_exclude_iff.1 hstays
    have hmatch : ModuleGraph.isExcluded ["?"] false ⟨["a"]⟩ = true := by cbv
    rw [ModuleGraph.isCut_iff.2 ⟨_, hc, by decide, hmatch, isWithin_self _⟩] at hcut
    cases hcut

end Outline

end CrateAtlas
