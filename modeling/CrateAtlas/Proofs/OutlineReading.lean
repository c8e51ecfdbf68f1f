import CrateAtlas.Proofs.NodeNames
import CrateAtlas.Proofs.OutlinedTree
import CrateAtlas.Text.Identifier

/-!
# Reading an outline back

Nothing is lost in an outline: `Outline.read` gets the modules and the edges of a graph back from
its outline and the name of the crate.

* A line is read from left to right (`readRow`).  What stands before the stroke comes in pieces of
  four characters, of which the second is a space; that of the stroke is not.  The name ends at the
  first space, and the written paths after the arrow have no spaces or commas in them.
* The path of a module is not on its line, only its depth and its name.  But lines stand in
  pre-order, and so **the parent of a module lies at or above the module on the line before**
  (`isChain_next`): the path is the start of the one before, as long as the depth says, and the name
  (`Row.path`).

This works for names in which nothing is a separator, and for crates in which no module at the top
is called like the root, because a written path must tell which module it is (`parse_render`).
-/

set_option autoImplicit false

namespace CrateAtlas

open Build

/-! ## Names -/

/-- The characters that separate the parts of an outline: what stands between the names of a path,
between paths, around the arrow and between lines. -/
def separators : List Char := [' ', ',', ':', '\n']

/-- A name that can be told apart from what stands around it. -/
def LegibleName (name : String) : Prop := name ≠ "" ∧ ∀ c ∈ name.toList, c ∉ separators

/-- Letters, digits and underscores are no separators. -/
theorem legibleName_of_isIdContinue {name : String} (h : name ≠ "")
    (hc : ∀ c ∈ name.toList, Text.isIdContinue c = true) : LegibleName name := by
  refine ⟨h, fun c hm hs => ?_⟩
  have hid := hc c hm
  simp only [separators, List.mem_cons, List.not_mem_nil, or_false] at hs
  rcases hs with rfl | rfl | rfl | rfl <;> exact absurd hid (by decide)

theorem legibleName_rootName : LegibleName ModulePath.rootName := by
  simp [LegibleName, ModulePath.rootName, separators]

namespace ModulePath

variable {p : ModulePath}

/-! ## Written paths -/

theorem cut_append {name : List Char} (h : ':' ∉ name) (segment rest : List Char) :
    cut segment (name ++ rest) = cut (name.reverse ++ segment) rest := by
  induction name generalizing segment with
  | nil => rfl
  | cons c name ih =>
    obtain ⟨hc, hname⟩ := not_or.1 (mt List.mem_cons.2 h)
    rw [List.cons_append, cut, ih hname]
    · simp
    · exact fun _ hcolon _ => hc hcolon.symm

/-- Names without colons are what stands between the `::`. -/
theorem cut_intercalate {names : List (List Char)} (hne : names ≠ [])
    (h : ∀ name ∈ names, ':' ∉ name) : cut [] ([':', ':'].intercalate names) = names := by
  induction names with
  | nil => exact absurd rfl hne
  | cons name names ih =>
    obtain ⟨hname, hnames⟩ := List.forall_mem_cons.1 h
    cases names with
    | nil => simpa [cut] using cut_append hname [] []
    | cons next names =>
      rw [List.intercalate_cons_cons, List.append_assoc, cut_append hname]
      simp [cut, ih (List.cons_ne_nil _ _) hnames]

theorem pieces_render (hp : p.segments ≠ []) (h : ∀ name ∈ p.segments, ':' ∉ name.toList) :
    pieces p.render = p.segments := by
  have hnames : p.names = p.segments.map String.toList := if_neg hp
  rw [pieces, toList_render, hnames, cut_intercalate (by simpa using hp) (by simpa using h),
    List.map_map]
  simp

/-- **A written path tells which path it is**, unless its first name is that of the root or it has
nothing but an empty name. -/
theorem parse_render (h : ∀ name ∈ p.segments, ':' ∉ name.toList)
    (hroot : p.segments.head? ≠ some rootName) (hempty : p.segments ≠ [""]) :
    parse p.render = p := by
  by_cases hp : p.segments = []
  · obtain rfl : p = root := congrArg mk hp
    rfl
  have hpieces := pieces_render hp h
  have hwritten : ¬(p.render = "" ∨ p.render = rootName) := by
    rintro (hr | hr)
    · rw [hr] at hpieces
      exact hempty hpieces.symm
    · rw [hr] at hpieces
      exact hroot (by rw [← hpieces]; rfl)
  rw [parse, if_neg hwritten, hpieces]
  obtain ⟨first, rest, hsegments⟩ := List.exists_cons_of_ne_nil hp
  have hfirst : first ≠ rootName := by
    rintro rfl
    exact hroot (by rw [hsegments]; rfl)
  obtain ⟨segments⟩ := p
  obtain rfl : segments = first :: rest := hsegments
  exact if_neg hfirst

/-- All names on the path can be told apart from what stands around them. -/
def Legible (p : ModulePath) : Prop := ∀ name ∈ p.segments, LegibleName name

theorem Legible.not_mem_name (h : p.Legible) {c : Char} (hc : c ∈ separators) :
    c ∉ p.name.toList := by
  intro hm
  rw [name] at hm
  cases hlast : p.segments.getLast? with
  | none =>
    rw [hlast] at hm
    exact legibleName_rootName.2 c hm hc
  | some segment =>
    rw [hlast] at hm
    exact (h segment (List.mem_of_getLast? hlast)).2 c hm hc

/-- No separator but the colon stands in a written path. -/
theorem Legible.not_mem_render (h : p.Legible) {c : Char} (hc : c ∈ separators)
    (hcolon : c ≠ ':') : c ∉ p.render.toList := by
  rw [toList_render]
  refine not_mem_intercalate (by simpa using hcolon) fun name hname hm => ?_
  rw [names] at hname
  split_ifs at hname
  · obtain rfl := List.mem_singleton.1 hname
    exact legibleName_rootName.2 c hm hc
  · obtain ⟨segment, hsegment, rfl⟩ := List.mem_map.1 hname
    exact (h segment hsegment).2 c hm hc

end ModulePath

namespace Outline

/-! ## Reading -/

/-- What a line says: how many modules are above, the name of the module, and the modules that it
imports from. -/
structure Row where
  depth : Nat
  name : String
  imports : List ModulePath
deriving DecidableEq, Repr

/-- Reads what stands before a label: the number of units before the stroke, and the label. -/
def readLead : List Char → Nat × List Char
  | _ :: c :: _ :: _ :: rest =>
    if c = ' ' then ((readLead rest).1 + 1, (readLead rest).2) else (0, rest)
  | rest => (0, rest)

/-- Reads what stands after a name. -/
def readImports (cs : List Char) : List ModulePath :=
  match cs with
  | [] => []
  | _ => (((cs.drop 4).filter (· ≠ ',')).splitOn ' ').map fun target => .parse (.ofList target)

/-- Reads a line. -/
def readRow (line : List Char) : Row :=
  let (depth, label) := readLead line
  ⟨depth, .ofList (label.takeWhile (· ≠ ' ')), readImports (label.dropWhile (· ≠ ' '))⟩

/-- The path of the module on a line, if the module on the line before has the given path. -/
def Row.path (before : ModulePath) (r : Row) : ModulePath :=
  match r.depth with
  | 0 => .root
  | n + 1 => ⟨before.segments.take n ++ [r.name]⟩

/-- The paths of the modules on lines that follow the line of a module. -/
def rowPaths : ModulePath → List Row → List ModulePath
  | _, [] => []
  | before, r :: rows => r.path before :: rowPaths (r.path before) rows

/-- The edges that the line of a module shows: the one from the module that declares it, and those
to the modules that it imports from. -/
def rowEdges (path : ModulePath) (r : Row) : List Edge :=
  (path.parent?.toList.map fun parent => ⟨parent, path, .declares⟩) ++
    r.imports.map fun target => ⟨path, target, .imports⟩

/-- The lines below the name of a crate. -/
def readRows (unit text : String) : List Row :=
  ((text.toList.drop (unit.length + 1)).splitOn '\n').map readRow

/-- **Reads an outline**: the paths of the modules, from top to bottom, and the edges. -/
def read (unit text : String) : List ModulePath × List Edge :=
  let rows := readRows unit text
  let paths := rowPaths .root rows
  (paths, (List.zipWith rowEdges paths rows).flatten)

variable {g : ModuleGraph} {path : ModulePath} {targets : List ModulePath}

/-! ## Lines -/

/-- What the line of a module says. -/
def rowOf (g : ModuleGraph) (path : ModulePath) : Row :=
  ⟨path.segments.length, path.name, g.targetsBy .imports path⟩

theorem toList_unit {style u : String} (hu : u ∈ units g (strokes style) path) :
    ∃ c, c ≠ '\n' ∧ u.toList = [c, ' ', ' ', ' '] := by
  obtain ⟨n, -, rfl⟩ := List.mem_map.1 hu
  rw [strokes]
  split_ifs
  · exact ⟨' ', by decide, rfl⟩
  · exact ⟨' ', by decide, rfl⟩
  · exact ⟨'|', by decide, rfl⟩
  · exact ⟨'│', by decide, rfl⟩

theorem toList_stroke (style : String) (isLast : Bool) :
    ∃ c d, d ≠ ' ' ∧ c ≠ '\n' ∧ d ≠ '\n' ∧
      (if isLast then (strokes style).last else (strokes style).branch).toList
        = [c, d, d, ' '] := by
  rw [strokes]
  split_ifs
  · exact ⟨'\\', '-', by decide, by decide, by decide, rfl⟩
  · exact ⟨'└', '─', by decide, by decide, by decide, rfl⟩
  · exact ⟨'|', '-', by decide, by decide, by decide, rfl⟩
  · exact ⟨'├', '─', by decide, by decide, by decide, rfl⟩

/-- What stands before a label is as long as the module is deep. -/
theorem readLead_append {units : List String}
    (hu : ∀ u ∈ units, ∃ c, c ≠ '\n' ∧ u.toList = [c, ' ', ' ', ' ']) {stroke : List Char}
    (hs : ∃ c d, d ≠ ' ' ∧ stroke = [c, d, d, ' ']) (label : List Char) :
    readLead ((String.join units).toList ++ (stroke ++ label)) = (units.length, label) := by
  induction units with
  | nil =>
    obtain ⟨c, d, hd, rfl⟩ := hs
    simp [readLead, hd]
  | cons u units ih =>
    obtain ⟨⟨c, -, hc⟩, hunits⟩ := List.forall_mem_cons.1 hu
    rw [String.join_cons, String.toList_append, hc]
    simp only [List.cons_append, List.nil_append, readLead, if_true, ih hunits, List.length_cons]

theorem filter_intercalate {names : List (List Char)} (h : ∀ name ∈ names, ',' ∉ name) :
    ([',', ' '].intercalate names).filter (· ≠ ',') = [' '].intercalate names := by
  have hname : ∀ {name : List Char}, ',' ∉ name → name.filter (· ≠ ',') = name := by
    intro name hn
    refine List.filter_eq_self.2 fun c hc => ?_
    rw [decide_eq_true_iff]
    rintro rfl
    exact hn hc
  induction names with
  | nil => rfl
  | cons name names ih =>
    obtain ⟨hn, hnames⟩ := List.forall_mem_cons.1 h
    cases names with
    | nil => simpa using hname hn
    | cons next names =>
      rw [List.intercalate_cons_cons, List.intercalate_cons_cons, List.filter_append,
        List.filter_append, hname hn, ih hnames]
      rfl

theorem toList_arrow (h : targets ≠ []) :
    (arrow targets).toList
      = [' ', '-', '>', ' '] ++ [',', ' '].intercalate (targets.map fun p => p.render.toList) := by
  rw [arrow, if_neg h, String.toList_append, String.toList_intercalate, List.map_map]
  rfl

/-- The written paths after an arrow tell the modules. -/
theorem readImports_arrow (h : ∀ p ∈ targets, p.Legible ∧ ModulePath.parse p.render = p) :
    readImports (arrow targets).toList = targets := by
  by_cases ht : targets = []
  · subst ht
    rfl
  have hplain : ∀ c ∈ separators, c ≠ ':' →
      ∀ name ∈ targets.map fun p => p.render.toList, c ∉ name := by
    intro c hc hcolon name hname
    obtain ⟨p, hp, rfl⟩ := List.mem_map.1 hname
    exact (h p hp).1.not_mem_render hc hcolon
  have hread : readImports (arrow targets).toList
      = ((([',', ' '].intercalate (targets.map fun p => p.render.toList)).filter (· ≠ ',')).splitOn
        ' ').map fun target => .parse (.ofList target) := by
    rw [toList_arrow ht]
    rfl
  rw [hread, filter_intercalate (hplain ',' (by decide) (by decide)),
    List.splitOn_intercalate ' ' (hplain ' ' (by decide) (by decide)) (by simpa using ht),
    List.map_map]
  refine (List.map_congr_left fun p hp => ?_).trans (List.map_id _)
  rw [Function.comp_apply, String.ofList_toList, (h p hp).2, id]

/-- A name ends at the first space of a label. -/
theorem span_label {name : List Char} (hn : ' ' ∉ name) (targets : List ModulePath) :
    (name ++ (arrow targets).toList).takeWhile (· ≠ ' ') = name ∧
      (name ++ (arrow targets).toList).dropWhile (· ≠ ' ') = (arrow targets).toList := by
  have hname : ∀ c ∈ name, decide (c ≠ ' ') = true := by
    intro c hc
    rw [decide_eq_true_iff]
    rintro rfl
    exact hn hc
  rw [List.takeWhile_append_of_pos hname, List.dropWhile_append_of_pos hname]
  by_cases ht : targets = []
  · subst ht
    simp [arrow]
  · rw [toList_arrow ht]
    simp

/-! ## Graphs with legible names -/

/-- Every name in the graph can be told apart from what stands around it, and no module at the top
is called like the root. -/
structure LegibleNames (g : ModuleGraph) : Prop where
  names : ∀ path : ModulePath, g.contains path = true → path.Legible
  top : g.contains ⟨[ModulePath.rootName]⟩ = false

/-- Written paths tell the modules of a module tree. -/
theorem LegibleNames.parse_render (hl : LegibleNames g) (h : IsModuleTree g)
    (hc : g.contains path = true) : ModulePath.parse path.render = path := by
  refine ModulePath.parse_render (fun name hname hm => ?_) (fun hroot => ?_) fun hempty => ?_
  · exact (hl.names path hc name hname).2 ':' hm (by decide)
  · -- What is above a module is a module, and so there would be one at the top.
    obtain ⟨rest, hrest⟩ := List.head?_eq_some_iff.1 hroot
    have htop : g.contains ⟨[ModulePath.rootName]⟩ = true :=
      h.contains_of_isWithin hc (ModulePath.isWithin_iff.2 (by simp [hrest]))
    rw [hl.top] at htop
    cases htop
  · exact (hl.names path hc "" (by simp [hempty])).1 rfl

section Entries

variable {style : String} {e : Entry}

theorem toList_line (he : e.Placed g (strokes style)) :
    (e.line g (strokes style)).toList = (String.join (units g (strokes style) e.path)).toList ++
      ((if e.isLast then (strokes style).last else (strokes style).branch).toList ++
        (e.path.name.toList ++ (arrow (g.targetsBy .imports e.path)).toList)) := by
  rw [Entry.line, label_eq, he.1]
  simp only [String.toList_append, List.append_assoc]

/-- **A line says what there is to say of its module.** -/
theorem readRow_line (hl : LegibleNames g) (hg : g.WellFormed) (h : IsModuleTree g)
    (he : e.Placed g (strokes style)) (hc : g.contains e.path = true) :
    readRow (e.line g (strokes style)).toList = rowOf g e.path := by
  obtain ⟨c, d, hd, -, -, hstroke⟩ := toList_stroke style e.isLast
  have hunits : ∀ u ∈ units g (strokes style) e.path,
      ∃ c, c ≠ '\n' ∧ u.toList = [c, ' ', ' ', ' '] :=
    fun u hu => toList_unit hu
  have hlead := readLead_append hunits ⟨c, d, hd, hstroke⟩
    (e.path.name.toList ++ (arrow (g.targetsBy .imports e.path)).toList)
  have hname : ' ' ∉ e.path.name.toList := (hl.names _ hc).not_mem_name (by decide)
  obtain ⟨htake, hdrop⟩ := span_label hname (g.targetsBy .imports e.path)
  have himports : readImports (arrow (g.targetsBy .imports e.path)).toList
      = g.targetsBy .imports e.path := by
    refine readImports_arrow fun p hp => ?_
    have hp := hg.target_mem _ (ModuleGraph.mem_targetsBy.1 hp)
    exact ⟨hl.names p hp, hl.parse_render h hp⟩
  rw [readRow, toList_line he, hlead]
  simp only [htake, hdrop, himports, String.ofList_toList, length_units, rowOf]

/-- A line has no line feed in it. -/
theorem not_mem_line (hl : LegibleNames g) (hg : g.WellFormed) (he : e.Placed g (strokes style))
    (hc : g.contains e.path = true) : '\n' ∉ (e.line g (strokes style)).toList := by
  obtain ⟨c, d, -, hc', hd, hstroke⟩ := toList_stroke style e.isLast
  rw [toList_line he, hstroke]
  simp only [List.mem_append, not_or]
  refine ⟨fun hm => ?_, by simp [hc'.symm, hd.symm], (hl.names _ hc).not_mem_name (by decide), ?_⟩
  · rw [String.toList_join, List.mem_flatMap] at hm
    obtain ⟨u, hu, hm⟩ := hm
    obtain ⟨c, hc, htoList⟩ := toList_unit hu
    simp [htoList, hc.symm] at hm
  · by_cases ht : g.targetsBy .imports e.path = []
    · rw [ht]
      simp [arrow]
    · rw [toList_arrow ht, List.mem_append, not_or]
      refine ⟨by decide, not_mem_intercalate (by decide) fun name hname => ?_⟩
      obtain ⟨p, hp, rfl⟩ := List.mem_map.1 hname
      have hp := hg.target_mem _ (ModuleGraph.mem_targetsBy.1 hp)
      exact (hl.names p hp).not_mem_render (by decide) (by decide)

end Entries

/-! ## Paths -/

/-- What may stand on the line after a module: one whose parent lies at or above that module. -/
def Next (p q : ModulePath) : Prop := ∀ parent, q.parent? = some parent → p.isWithin parent = true

/-- The path of a module follows from its line and the path before. -/
theorem path_rowOf {p q : ModulePath} (h : Next p q) : (rowOf g q).path p = q := by
  obtain ⟨segments⟩ := q
  induction segments using List.reverseRecOn with
  | nil => rfl
  | append_singleton init name _ =>
    have hwithin := h ⟨init⟩ (ModulePath.parent?_eq_some_iff.2 ⟨name, rfl⟩)
    have htake : p.segments.take init.length = init :=
      List.prefix_iff_eq_take.1 (ModulePath.isWithin_iff.1 hwithin) |>.symm
    simp [rowOf, Row.path, ModulePath.name, htake]

theorem rowPaths_map_rowOf {p : ModulePath} {l : List ModulePath} (h : List.IsChain Next (p :: l)) :
    rowPaths p (l.map (rowOf g)) = l := by
  induction l generalizing p with
  | nil => rfl
  | cons q l ih =>
    obtain ⟨hnext, hchain⟩ := List.isChain_cons_cons.1 h
    rw [List.map_cons, rowPaths, path_rowOf hnext, ih hchain]

/-- **In pre-order, a module comes after one that lies at or below its parent.**  The walk starts
from modules with a common parent, after a module below that parent; whatever can follow any module
below that parent can follow the walk. -/
theorem isChain_next (h : IsModuleTree g) {parent : ModulePath} {starts l rest : List ModulePath}
    (hw : Walk g.children starts l) (hs : ∀ a ∈ starts, a.parent? = some parent)
    {p : ModulePath} (hp : p.isWithin parent = true)
    (hrest : ∀ q : ModulePath, q.isWithin parent = true → List.IsChain Next (q :: rest)) :
    List.IsChain Next (p :: (l ++ rest)) := by
  induction hw generalizing parent p rest with
  | nil => exact hrest p hp
  | @cons a as below after hbelow hafter ihb iha =>
    obtain ⟨ha, has⟩ := List.forall_mem_cons.1 hs
    have hnext : Next p a := by
      intro q hq
      obtain rfl : parent = q := Option.some.inj (ha.symm.trans hq)
      exact hp
    rw [List.cons_append, List.append_assoc]
    refine .cons_cons hnext (ihb (fun c hc => ((mem_children_iff h).1 hc).2) (isWithin_self a) ?_)
    intro q hq
    exact iha has (ModulePath.isWithin_trans hq (isWithin_of_parent? ha)) hrest

/-- The modules on the lines of an outline follow from the lines. -/
theorem rowPaths_walk (h : IsModuleTree g) {l : List ModulePath}
    (hw : Walk g.children [.root] l) : rowPaths .root (l.map (rowOf g)) = l := by
  refine rowPaths_map_rowOf ?_
  cases hw with
  | cons hbelow hafter =>
    cases hafter
    have hroot : Next .root .root := fun parent hparent => by cases hparent
    refine .cons_cons hroot (isChain_next h hbelow ?_ (isWithin_self _) fun q _ => .singleton q)
    exact fun c hc => ((mem_children_iff h).1 hc).2

/-! ## Edges -/

/-- The edges on the lines of the modules are the edges of the graph. -/
theorem mem_rowEdges_iff (hg : g.WellFormed) (h : IsModuleTree g) {l : List ModulePath}
    (hl : ∀ path, path ∈ l ↔ g.contains path = true) {e : Edge} :
    e ∈ (List.zipWith rowEdges l (l.map (rowOf g))).flatten ↔ e ∈ g.edges := by
  have hrows : (List.zipWith rowEdges l (l.map (rowOf g))).flatten
      = l.flatMap fun path => rowEdges path (rowOf g path) := by
    rw [List.zipWith_map_right, List.zipWith_self, List.flatMap_def]
  rw [hrows, List.mem_flatMap]
  obtain ⟨source, target, kind⟩ := e
  cases kind with
  | declares =>
    rw [← ModuleGraph.mem_targetsBy, ← ModuleGraph.children, mem_children_iff h]
    simp [rowEdges, hl]
  | imports =>
    constructor
    · rintro ⟨path, -, hm⟩
      rcases List.mem_append.1 hm with hm | hm
      · obtain ⟨parent, -, heq⟩ := List.mem_map.1 hm
        cases heq
      · obtain ⟨target, ht, heq⟩ := List.mem_map.1 hm
        cases heq
        exact ModuleGraph.mem_targetsBy.1 ht
    · intro he
      refine ⟨source, (hl source).2 (hg.source_mem _ he), List.mem_append_right _ ?_⟩
      exact List.mem_map_of_mem (ModuleGraph.mem_targetsBy.2 he)

/-! ## Outlines -/

/-- The lines of a text below its first one, which may have line feeds in it. -/
theorem splitOn_drop_intercalate {first : String} {lines : List String} (hne : lines ≠ [])
    (h : ∀ line ∈ lines, '\n' ∉ line.toList) :
    (("\n".intercalate (first :: lines)).toList.drop (first.length + 1)).splitOn '\n'
      = lines.map String.toList := by
  have htext : ("\n".intercalate (first :: lines)).toList
      = (first.toList ++ ['\n']) ++ ['\n'].intercalate (lines.map String.toList) := by
    obtain ⟨line, lines, rfl⟩ := List.exists_cons_of_ne_nil hne
    rw [String.toList_intercalate, List.map_cons, List.map_cons, List.intercalate_cons_cons]
    rfl
  have hlength : first.length + 1 = (first.toList ++ ['\n']).length := by
    rw [List.length_append, String.length_toList]
    rfl
  rw [htext, hlength, List.drop_left]
  exact List.splitOn_intercalate '\n' (by simpa using h) (by simpa using hne)

theorem readRows_text (hl : LegibleNames g) (hg : g.WellFormed) (h : IsModuleTree g)
    {style : String} {entries : List Entry}
    (hw : Walk (Entry.below g (strokes style)) [Entry.top] entries)
    (hlines : lines g (strokes style) = g.unit :: entries.map (Entry.line g (strokes style))) :
    readRows g.unit (text [g] style) = (entries.map Entry.path).map (rowOf g) := by
  have hentry : ∀ e ∈ entries, e.Placed g (strokes style) ∧ g.contains e.path = true :=
    fun e he => ⟨placed_of_mem hg h hw he, (mem_paths_iff h hw).1 (List.mem_map_of_mem he)⟩
  have hne : entries ≠ [] := List.ne_nil_of_mem (hw.subset List.mem_cons_self)
  rw [readRows, text, List.map_singleton, String.intercalate_singleton, hlines,
    splitOn_drop_intercalate (by simpa using hne), List.map_map, List.map_map, List.map_map]
  · refine List.map_congr_left fun e he => ?_
    exact readRow_line hl hg h (hentry e he).1 (hentry e he).2
  · intro line hline
    obtain ⟨e, he, rfl⟩ := List.mem_map.1 hline
    exact not_mem_line hl hg (hentry e he).1 (hentry e he).2

/-- **An outline is read back**: the modules, and the edges with their kinds. -/
theorem read_text (hl : LegibleNames g) (hg : g.WellFormed) (h : IsModuleTree g) (style : String) :
    (∀ path, path ∈ (read g.unit (text [g] style)).1 ↔ g.contains path = true) ∧
      ∀ e, e ∈ (read g.unit (text [g] style)).2 ↔ e ∈ g.edges := by
  obtain ⟨entries, hw, hlines⟩ := exists_entries hg (acyclic_children h) (strokes style)
  have hmem : ∀ path, path ∈ entries.map Entry.path ↔ g.contains path = true := fun path =>
    mem_paths_iff h hw
  rw [read, readRows_text hl hg h hw hlines, rowPaths_walk h (walk_paths hw)]
  exact ⟨hmem, fun e => mem_rowEdges_iff hg h hmem⟩

/-- **Nothing is lost in an outline.**  Two crates of the same name, each built from any files and
with any modules excluded, have the same modules and the same edges, with their kinds, if their
outlines are the same; both can be read off the outline.  All names have to be legible, as those
made of letters, digits and underscores are, and no module at the top may be called like the
root. -/
theorem outline_lossless {t t' : FileTree} {parse parse' : Source.Parser} {unit unit' : String}
    {file file' : Path} {built built' : ModuleGraph}
    (hb : (Build.graph parse t unit file).result = .ok built)
    (hb' : (Build.graph parse' t' unit' file').result = .ok built')
    (steps steps' : List (List String × Bool))
    (hl : LegibleNames (built.excludeAll steps)) (hl' : LegibleNames (built'.excludeAll steps'))
    (hunit : (built.excludeAll steps).unit = (built'.excludeAll steps').unit) {style : String}
    (htext : text [built.excludeAll steps] style = text [built'.excludeAll steps'] style) :
    (∀ path, (built.excludeAll steps).contains path = true ↔
      (built'.excludeAll steps').contains path = true) ∧
    ∀ e, e ∈ (built.excludeAll steps).edges ↔ e ∈ (built'.excludeAll steps').edges := by
  obtain ⟨hpaths, hedges⟩ := read_text hl ((reached_graph hb).excludeAll steps).wellFormed
    ((built_of_graph hb).isModuleTree.excludeAll steps) style
  obtain ⟨hpaths', hedges'⟩ := read_text hl' ((reached_graph hb').excludeAll steps').wellFormed
    ((built_of_graph hb').isModuleTree.excludeAll steps') style
  rw [htext, hunit] at hpaths hedges
  exact ⟨fun path => (hpaths path).symm.trans (hpaths' path),
    fun e => (hedges e).symm.trans (hedges' e)⟩

end Outline

namespace Build.Sample

/-- The two modules of `mod a { use super::*; }`. -/
theorem eq_of_contains_globRoot {g : ModuleGraph}
    (hb : Built (parser globSource globRoot) (rootOf (tree globSource) rootFile) g)
    {path : ModulePath} (h : g.contains path = true) : path = .root ∨ path = ⟨["a"]⟩ := by
  obtain ⟨p, hp, rfl⟩ := (visits_globRoot.contains_iff hb).1 h
  rcases List.mem_cons.1 hp with rfl | hp
  · exact .inl rfl
  · obtain rfl := List.mem_singleton.1 hp
    exact .inr rfl

theorem legibleNames_globRoot {g : ModuleGraph}
    (hb : Built (parser globSource globRoot) (rootOf (tree globSource) rootFile) g) :
    Outline.LegibleNames g where
  names := by
    intro path hc name hname
    rcases eq_of_contains_globRoot hb hc with rfl | rfl
    · cases hname
    · obtain rfl := List.mem_singleton.1 hname
      refine legibleName_of_isIdContinue (by decide) fun c hc => ?_
      obtain rfl : c = 'a' := by simpa using hc
      decide
  top := by
    rw [Bool.eq_false_iff]
    intro hc
    rcases eq_of_contains_globRoot hb hc with h | h <;> exact absurd h (by decide)

end Build.Sample

namespace Outline

/-- `mod a { use super::*; }` has the same outline without the modules called `b` or `tests`, and so
the module `a` is still there. -/
theorem inner_module_of_same_outline :
    ∃ g, (Build.graph (Sample.parser Sample.globSource Sample.globRoot)
        (Sample.tree Sample.globSource) "demo" Sample.rootFile).result = .ok g ∧
      text [g.excludeAll []] "tree" = text [g.excludeAll [(["b"], true)]] "tree" ∧
      (g.excludeAll [(["b"], true)]).contains ⟨["a"]⟩ = true := by
  obtain ⟨g, hg, hb⟩ := Sample.exists_built_globRoot
  have hcut : ∀ path, g.isCut (ModuleGraph.isExcluded ["b"] true) path = false := by
    intro path
    rw [Bool.eq_false_iff, Ne, ModuleGraph.isCut_iff]
    rintro ⟨top, hc, hr, he, -⟩
    obtain rfl := (Sample.eq_of_contains_globRoot hb hc).resolve_left hr
    have hstays : ModuleGraph.isExcluded ["b"] true ⟨["a"]⟩ = false := by cbv
    cases he.symm.trans hstays
  have hsame : g.excludeAll [] = g.excludeAll [(["b"], true)] := by
    have hfrozen : g = { g with frozen := true } := by rw [← hb.frozen]
    have hwithout : g.exclude ["b"] true = { g with frozen := true } := by
      rw [ModuleGraph.exclude_of_something rfl, ModuleGraph.without_eq]
      simp only [hcut, Bool.not_false, Bool.and_self, List.filter_true]
    exact hfrozen.trans hwithout.symm
  have hl := Sample.legibleNames_globRoot hb
  have htext := congrArg (fun g => text [g] "tree") hsame
  obtain ⟨hpaths, -⟩ := outline_lossless hg hg [] [(["b"], true)] hl (hsame ▸ hl)
    (congrArg ModuleGraph.unit hsame) htext
  exact ⟨g, hg, htext, (hpaths ⟨["a"]⟩).1 (hb.contains_iff.2 ⟨_, Sample.declared_inner⟩)⟩

end Outline

end CrateAtlas
