import CrateAtlas.ImportTarget
import CrateAtlas.Source

/-!
# Use items that come from source code

A use tree stands for the paths from its top to its leaves (`leafPaths`), and flattening lists them
(`flatten_eq`), unless the tree holds a foreign value.  Trees that are read off a syntax tree hold
none (`foreign?_of_useTree?`), so neither does any block of a source file, however deeply its inline
modules are nested (`Block.fromSource_ofNode`).

For such blocks the targets of a module are described path by path: `exists_targets` says which
modules the use trees lead to, and `known_of_target?` that they are known ones.
-/

set_option autoImplicit false

namespace CrateAtlas

namespace UseTree

mutual

/-- The leftmost foreign value in a tree. -/
def foreign? : UseTree → Option Value
  | .path _ tree => foreign? tree
  | .name _ => none
  | .rename _ _ => none
  | .glob => none
  | .group items => foreignIn? items
  | .foreign value => some value

/-- The leftmost foreign value in a list of trees. -/
def foreignIn? : List UseTree → Option Value
  | [] => none
  | tree :: rest => (foreign? tree).or (foreignIn? rest)

end

theorem foreignIn?_eq_none_iff {trees : List UseTree} :
    foreignIn? trees = none ↔ ∀ tree ∈ trees, tree.foreign? = none := by
  induction trees with
  | nil => simp [foreignIn?]
  | cons tree rest ih => simp [foreignIn?, ih]

/-! ## The paths of a tree -/

mutual

/-- The paths from the top of a tree down to its leaves, from left to right.  A name is the end of
its path, and a glob is not a part of it. -/
def leafPaths : UseTree → List RawPath
  | .path segment tree => (leafPaths tree).map (segment :: ·)
  | .name segment => [[segment]]
  | .rename segment _ => [[segment]]
  | .glob => [[]]
  | .group items => leafPathsIn items
  | .foreign _ => []

/-- The paths of the leaves of a list of trees. -/
def leafPathsIn : List UseTree → List RawPath
  | [] => []
  | tree :: rest => leafPaths tree ++ leafPathsIn rest

end

theorem leafPathsIn_eq (trees : List UseTree) : leafPathsIn trees = trees.flatMap leafPaths := by
  induction trees with
  | nil => rfl
  | cons tree rest ih => rw [leafPathsIn, ih, List.flatMap_cons]

mutual

/-- **Flattening lists the leaves**, each after the given segments, unless there is a foreign value
in the tree. -/
theorem flatten_eq : ∀ (tree : UseTree) (before : RawPath),
    tree.flatten before
      = tree.foreign?.elim (.ok (tree.leafPaths.map (before ++ ·))) (.error ∘ .ofForeign)
  | .path segment tree, before => by
    rw [flatten, flatten_eq tree]
    simp [foreign?, leafPaths, Function.comp_def]
  | .name _, _ => rfl
  | .rename _ _, _ => rfl
  | .glob, before => by simp [flatten, foreign?, leafPaths]
  | .group items, before => flattenAll_eq items before
  | .foreign _, _ => rfl

theorem flattenAll_eq : ∀ (trees : List UseTree) (before : RawPath),
    flattenAll trees before
      = (foreignIn? trees).elim (.ok ((leafPathsIn trees).map (before ++ ·)))
        (.error ∘ .ofForeign)
  | [], _ => rfl
  | tree :: rest, before => by
    rw [flattenAll, flatten_eq tree, flattenAll_eq rest, foreignIn?, leafPathsIn]
    -- The leftmost foreign value is that of the tree, if it has one.
    cases tree.foreign? <;> cases foreignIn? rest <;> simp

end

/-- A tree without foreign values has a list of paths. -/
theorem exists_flatten {tree : UseTree} (h : tree.foreign? = none) (before : RawPath) :
    ∃ paths, tree.flatten before = .ok paths :=
  ⟨_, by rw [flatten_eq, h]; rfl⟩

theorem exists_flattenAll {trees : List UseTree} (h : ∀ tree ∈ trees, tree.foreign? = none)
    (before : RawPath) : ∃ paths, flattenAll trees before = .ok paths := by
  have hg : (UseTree.group trees).foreign? = none := foreignIn?_eq_none_iff.2 h
  exact exists_flatten hg before

/-- The paths of a list of trees are those of its trees. -/
theorem mem_flattenAll_iff {trees : List UseTree} {before : RawPath} {paths : List RawPath}
    (h : flattenAll trees before = .ok paths) {raw : RawPath} :
    raw ∈ paths ↔ ∃ tree ∈ trees, ∃ own, tree.flatten before = .ok own ∧ raw ∈ own := by
  induction trees generalizing paths with
  | nil =>
    cases h
    simp
  | cons tree rest ih =>
    rw [flattenAll] at h
    split at h
    · cases h
    · rename_i own hown
      split at h
      · cases h
      · rename_i others ho
        cases h
        simp [ih ho, hown]

theorem foreign?_wrap (segments : List String) (tree : UseTree) :
    (wrap segments tree).foreign? = tree.foreign? := by
  induction segments with
  | nil => rfl
  | cons segment segments ih => exact ih

end UseTree

/-! ## Trees read off syntax -/

namespace Node

variable {n : Node}

/-! The three forms of a path. -/

theorem segments_of_name (h : n.isSegment = true) : n.segments = [n.identifierName] := by
  rw [segments, if_pos h]

theorem segments_of_scoped (h : n.kind = "scoped_identifier") :
    n.segments = ((n.child? "name").map identifierName).elim [] fun name =>
      ((n.child? "path").map segments).elim [externMarker, name] fun path =>
        if path = [] then [] else path ++ [name] := by
  rw [segments, if_neg (by simp [isSegment, h]), if_pos h]
  split
  · rename_i hname
    rw [hname]
    rfl
  · rename_i name hname
    rw [hname]
    split
    · rename_i hpath
      rw [hpath]
      rfl
    · rename_i path hpath
      rw [hpath, Option.map_some, Option.map_some, Option.elim_some, Option.elim_some]
      cases path.segments with
      | nil => rfl
      | cons first rest => simp

theorem segments_of_other (h : n.isSegment = false) (h' : n.kind ≠ "scoped_identifier") :
    n.segments = [] := by
  rw [segments, if_neg (by simp [h]), if_neg h']

/-- The node of the path before the star of a glob. -/
def starPath? (n : Node) : Option Node :=
  n.namedChildren.find? fun c => c.isSegment || c.kind = "scoped_identifier"

theorem globPath_eq (n : Node) :
    n.globPath = if (n.starPath?.map segments).getD [] = [] ∧
        "::".toList.isPrefixOf n.contents.toList = true then [externMarker]
      else (n.starPath?.map segments).getD [] := by
  rw [globPath, starPath?]
  cases n.namedChildren.find? fun c => c.isSegment || c.kind = "scoped_identifier" <;> simp

/-! The five forms of a use clause. -/

theorem useTree?_of_rename (h : n.kind = "use_as_clause") :
    n.useTree? = leafOf (((n.child? "path").map segments).getD []) fun last =>
      .rename last (((n.child? "alias").map identifierName).getD "_") := by
  rw [useTree?, if_pos h]

theorem useTree?_of_group (h : n.kind = "use_list") :
    n.useTree? = some (.group (n.namedChildren.filterMap fun c =>
      if c.isComment then none else c.useTree?)) := by
  rw [useTree?, if_neg (by simp [h]), if_pos h,
    List.filterMap_subtype (g := fun c => if c.isComment then none else c.useTree?)
      fun _ _ => rfl,
    List.unattach_attach]

theorem useTree?_of_below (h : n.kind = "scoped_use_list") :
    n.useTree? = ((n.child? "list").bind useTree?).map
      (UseTree.wrap (((n.child? "path").map segments).getD [externMarker])) := by
  rw [useTree?, if_neg (by simp [h]), if_neg (by simp [h]), if_pos h]
  split <;> simp_all

theorem useTree?_of_glob (h : n.kind = "use_wildcard") :
    n.useTree? = some (UseTree.wrap n.globPath .glob) := by
  rw [useTree?, if_neg (by simp [h]), if_neg (by simp [h]), if_neg (by simp [h]), if_pos h]

/-- The kinds of use clauses that are more than a path. -/
def clauseKinds : List String :=
  ["use_as_clause", "use_list", "scoped_use_list", "use_wildcard"]

theorem useTree?_of_path (h : n.kind ∉ clauseKinds) : n.useTree? = leafOf n.segments .name := by
  simp only [clauseKinds, List.mem_cons, List.not_mem_nil, or_false, not_or] at h
  rw [useTree?, if_neg h.1, if_neg h.2.1, if_neg h.2.2.1, if_neg h.2.2.2]

/-- **Induction over use clauses**: over the items of a group, and over what stands below a path. -/
theorem clause_induction {P : Node → Prop}
    (rename : ∀ n : Node, n.kind = "use_as_clause" → P n)
    (group : ∀ n : Node, n.kind = "use_list" → (∀ c ∈ n.namedChildren, P c) → P n)
    (below : ∀ n : Node, n.kind = "scoped_use_list" →
      (∀ list, n.child? "list" = some list → P list) → P n)
    (glob : ∀ n : Node, n.kind = "use_wildcard" → P n)
    (path : ∀ n : Node, n.kind ∉ clauseKinds → P n) (n : Node) : P n := by
  induction n using useTree?.induct with
  | case1 n hk => exact rename n hk
  | case2 n _ hk ih => exact group n hk ih
  | case3 n _ _ hk hl => exact below n hk fun list hl' => by cases hl.symm.trans hl'
  | case4 n _ _ hk list hl ih =>
    refine below n hk fun list' hl' => ?_
    cases hl.symm.trans hl'
    exact ih
  | case5 n _ _ _ hk => exact glob n hk
  | case6 n hk₁ hk₂ hk₃ hk₄ => exact path n (by simp [clauseKinds, hk₁, hk₂, hk₃, hk₄])

theorem foreign?_of_leafOf {segments : List String} {leaf : String → UseTree} {tree : UseTree}
    (hl : ∀ name, (leaf name).foreign? = none) (h : leafOf segments leaf = some tree) :
    tree.foreign? = none := by
  obtain ⟨last, -, rfl⟩ := Option.map_eq_some_iff.1 h
  rw [UseTree.foreign?_wrap, hl]

/-- **No foreign value comes from a use clause.** -/
theorem foreign?_of_useTree? {tree : UseTree} (h : n.useTree? = some tree) :
    tree.foreign? = none := by
  induction n using clause_induction generalizing tree with
  | rename n hk =>
    rw [useTree?_of_rename hk] at h
    exact foreign?_of_leafOf (fun _ => rfl) h
  | group n hk ih =>
    rw [useTree?_of_group hk] at h
    cases h
    rw [UseTree.foreign?, UseTree.foreignIn?_eq_none_iff]
    intro tree hm
    obtain ⟨c, hc, ht⟩ := List.mem_filterMap.1 hm
    split at ht
    · cases ht
    · exact ih c hc ht
  | below n hk ih =>
    rw [useTree?_of_below hk] at h
    obtain ⟨inner, hi, rfl⟩ := Option.map_eq_some_iff.1 h
    obtain ⟨list, hl, hi⟩ := Option.bind_eq_some_iff.1 hi
    rw [UseTree.foreign?_wrap]
    exact ih list hl hi
  | glob n hk =>
    rw [useTree?_of_glob hk] at h
    cases h
    rw [UseTree.foreign?_wrap]
    rfl
  | path n hk =>
    rw [useTree?_of_path hk] at h
    exact foreign?_of_leafOf (fun _ => rfl) h

theorem foreign?_of_itemTree? {n : Node} {tree : UseTree} (h : n.itemTree? = some tree) :
    tree.foreign? = none := by
  rw [itemTree?] at h
  split at h
  · obtain ⟨argument, -, ht⟩ := Option.bind_eq_some_iff.1 h
    exact foreign?_of_useTree? ht
  · cases h

end Node

/-- A block whose use trees hold no foreign value, with those of its inline modules. -/
inductive Block.FromSource : Block → Prop
  | intro {block : Block} (uses : ∀ tree ∈ block.uses, tree.foreign? = none)
      (bodies : ∀ d ∈ block.declarations, ∀ body, d.body = some body → FromSource body) :
      FromSource block

theorem Block.FromSource.foreign?_eq_none {block : Block} (h : block.FromSource) {tree : UseTree}
    (hm : tree ∈ block.uses) : tree.foreign? = none := by
  obtain ⟨uses, -⟩ := h
  exact uses tree hm

theorem Block.FromSource.body {block body : Block} (h : block.FromSource) {d : Declaration}
    (hd : d ∈ block.declarations) (hb : d.body = some body) : body.FromSource := by
  obtain ⟨-, bodies⟩ := h
  exact bodies d hd body hb

/-- **The block of a syntax tree holds no foreign value.** -/
theorem Block.fromSource_ofNode (n : Node) : (Block.ofNode n).FromSource := by
  induction n using Block.ofNode.induct with
  | case1 n ih =>
    rw [Block.ofNode]
    refine .intro (fun tree hm => ?_) (fun d hd body hb => ?_)
    · obtain ⟨item, -, ht⟩ := List.mem_filterMap.1 hm
      exact Node.foreign?_of_itemTree? ht
    · obtain ⟨⟨⟨before, item⟩, hm⟩, -, hd⟩ := List.mem_filterMap.1 hd
      dsimp only at hd
      split at hd
      · obtain ⟨name, -, rfl⟩ := Option.map_eq_some_iff.1 hd
        simp only [Declaration.body] at hb
        split at hb
        · cases hb
        · rename_i node hn
          cases hb
          exact ih before item hm node hn
      · cases hd

/-- The block of a source file is that of a sound syntax tree. -/
theorem Source.exists_root_of_readBlock {parse : Parser} {t : FileTree} {file : Path}
    {block : Block} (h : readBlock parse t file = .ok block) :
    ∃ text root, parse text = some root ∧ root.broken = false ∧ block = .ofNode root := by
  rw [readBlock] at h
  split at h
  · cases h
  · rename_i text _
    rw [parseText] at h
    split at h
    · cases h
    · rename_i root hroot
      split at h
      · cases h
      · rename_i hsound
        cases h
        exact ⟨text, root, hroot, Bool.eq_false_iff.2 hsound, rfl⟩

/-- The block of a source file holds no foreign value. -/
theorem Source.fromSource_of_readBlock {parse : Parser} {t : FileTree} {file : Path}
    {block : Block} (h : readBlock parse t file = .ok block) : block.FromSource := by
  obtain ⟨_, root, -, -, rfl⟩ := exists_root_of_readBlock h
  exact Block.fromSource_ofNode root

/-! ## Targets -/

namespace ImportTarget

theorem known_deepest {known : ModulePath → Bool} {base : ModulePath} (h : known base = true)
    (rest : RawPath) : known (deepest known base rest) = true := by
  induction rest generalizing base with
  | nil => exact h
  | cons segment rest ih =>
    rw [deepest]
    split
    · rename_i hk
      exact ih hk
    · exact h

/-- A path leads to a known module, if it leads anywhere. -/
theorem known_of_target? {known : ModulePath → Bool} {current target : ModulePath} {raw : RawPath}
    (h : target? known current raw = some target) : known target = true := by
  rw [target?] at h
  split at h
  · split at h
    · rename_i hk
      cases h
      exact known_deepest hk _
    · cases h
  · cases h

theorem mem_distinct {paths : List ModulePath} {p : ModulePath} :
    p ∈ distinct paths ↔ p ∈ paths := by
  -- The fold keeps what it has collected and adds what it meets.
  have hfold : ∀ (acc : List ModulePath),
      p ∈ paths.foldl (fun acc p => if acc.contains p then acc else p :: acc) acc ↔
        p ∈ acc ∨ p ∈ paths := by
    induction paths with
    | nil => simp
    | cons q paths ih =>
      intro acc
      rw [List.foldl_cons, ih, List.mem_cons]
      split
      · rename_i hq
        have hq : q ∈ acc := by simpa using hq
        constructor
        · exact fun h => h.imp_right .inr
        · rintro (h | rfl | h)
          · exact .inl h
          · exact .inl hq
          · exact .inr h
      · rw [List.mem_cons, or_assoc]
        exact or_left_comm
  rw [distinct, List.mem_reverse, hfold]
  simp

/-- `Leads known current trees target`: one of the paths of the trees leads to the target. -/
def Leads (known : ModulePath → Bool) (current : ModulePath) (trees : List UseTree)
    (target : ModulePath) : Prop :=
  ∃ tree ∈ trees, ∃ paths, tree.flatten [] = .ok paths ∧
    ∃ raw ∈ paths, target? known current raw = some target

/-- **The targets of a module** are the modules that a path of one of its use trees leads to. -/
theorem exists_targets (known : ModulePath → Bool) (current : ModulePath) {trees : List UseTree}
    (h : ∀ tree ∈ trees, tree.foreign? = none) :
    ∃ found, targets known current trees = .ok found ∧
      ∀ target, target ∈ found ↔ Leads known current trees target := by
  obtain ⟨paths, hp⟩ := UseTree.exists_flattenAll h []
  refine ⟨distinct (paths.filterMap (target? known current)), by rw [targets, hp], ?_⟩
  intro target
  rw [mem_distinct, List.mem_filterMap]
  constructor
  · rintro ⟨raw, hraw, ht⟩
    obtain ⟨tree, hm, own, hown, hr⟩ := (UseTree.mem_flattenAll_iff hp).1 hraw
    exact ⟨tree, hm, own, hown, raw, hr, ht⟩
  · rintro ⟨tree, hm, own, hown, raw, hr, ht⟩
    exact ⟨raw, (UseTree.mem_flattenAll_iff hp).2 ⟨tree, hm, own, hown, hr⟩, ht⟩

end ImportTarget

end CrateAtlas
