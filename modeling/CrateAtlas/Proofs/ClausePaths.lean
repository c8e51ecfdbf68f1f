import CrateAtlas.Proofs.BuiltGraph
import CrateAtlas.Proofs.UseGroups

/-!
# The paths of a use clause

A use clause is followed from its top down to its leaves, the names and the globs in it.  On the
`Way` to a leaf lie the paths before the braces around it, and at the end its own path.  The *whole*
path of the leaf (`Way.path?`) is made of the segments of all of them.  A path that leads through a
type has no segments; it names no module, and what lies below it is in no module of the crate, so
that there is no whole path then.

The paths that a clause imports come close to that.  A name whose own path has no segments is left
out.  But where it is the path **before the braces** that has none, only this path is left out, and
the names in the braces are imported as if they stood alone: the way goes *astray* (`Way.Astray`).
The same happens to a glob.  So `<T>::x::{b}` imports `b` (`name_in_braces_astray`), though
`<T>::x::b` imports nothing.

`clause_imports_whole_paths` says that this is the only flaw: the clause imports the whole paths of
its leaves, in order, exactly if no way in it goes astray.
-/

set_option autoImplicit false

namespace CrateAtlas

namespace UseClause

/-! ## Ways to the leaves -/

/-- What lies on the way to a leaf: a path, or a leading `::` with no path before it. -/
inductive Part where
  | path (node : Node)
  | marker

/-- The segments that a part adds.  A path through a type has none. -/
def Part.segments : Part → List String
  | .path node => node.segments
  | .marker => [externMarker]

/-- The path before the star of a glob, or the leading `::`. -/
def starParts (clause : Node) : List Part :=
  match clause.starPath? with
  | some path => [.path path]
  | none => if "::".toList.isPrefixOf clause.contents.toList then [.marker] else []

/-- A leaf of a use clause. -/
inductive Leaf where
  /-- The last name of a path, under an alias or not. -/
  | name (path : Node)
  /-- The star of a glob. -/
  | glob (clause : Node)

/-- What a leaf brings itself. -/
def Leaf.parts : Leaf → List Part
  | .name path => [.path path]
  | .glob clause => starParts clause

/-- The way from the top of a clause to a leaf. -/
structure Way where
  /-- The paths before the braces around the leaf, the outermost first. -/
  above : List Part
  leaf : Leaf

namespace Way

/-- Everything that lies on a way. -/
def parts (w : Way) : List Part := w.above ++ w.leaf.parts

/-- A way inside braces. -/
def below (part : Part) (w : Way) : Way := { w with above := part :: w.above }

/-- **The whole path** of a leaf: the segments of everything on the way.  There is none if a path
on the way names no module. -/
def path? (w : Way) : Option RawPath :=
  if ∀ part ∈ w.parts, part.segments ≠ [] then some (w.parts.flatMap Part.segments) else none

/-- What is imported for a leaf. -/
def imported? (w : Way) : Option RawPath :=
  match w.leaf with
  | .name path =>
    if path.segments = [] then none
    else some (w.above.flatMap Part.segments ++ path.segments)
  | .glob clause => some (w.above.flatMap Part.segments ++ clause.globPath)

/-- A way goes astray if its leaf is imported though a path on the way names no module. -/
def Astray (w : Way) : Prop :=
  w.imported?.isSome = true ∧ ∃ part ∈ w.parts, part.segments = []

end Way

end UseClause

theorem UseTree.leafPathsIn_filterMap {α : Type} (f : α → Option UseTree) (l : List α) :
    leafPathsIn (l.filterMap f) = l.flatMap fun a => ((f a).map leafPaths).getD [] := by
  induction l with
  | nil => rfl
  | cons a l ih =>
    cases h : f a with
    | none => simp [h, ih]
    | some tree => simp [h, ih, leafPathsIn]

open UseClause

namespace Node

/-- What stands before the braces of a clause. -/
def lead (clause : Node) : Part := (clause.child? "path").elim .marker .path

/-- **The ways to the leaves** of a use clause, from left to right. -/
def ways (n : Node) : List Way :=
  if n.kind = "use_as_clause" then (n.child? "path").toList.map fun path => ⟨[], .name path⟩
  else if n.kind = "use_list" then
    n.namedChildren.attach.flatMap fun ⟨c, _⟩ => if c.isComment then [] else ways c
  else if n.kind = "scoped_use_list" then
    match _h : n.child? "list" with
    | none => []
    | some list => (ways list).map (Way.below n.lead)
  else if n.kind = "use_wildcard" then [⟨[], .glob n⟩]
  else [⟨[], .name n⟩]
termination_by sizeOf n
decreasing_by
  · exact sizeOf_namedChildren_lt (by assumption)
  · exact sizeOf_child?_lt _h

theorem segments_lead (clause : Node) :
    clause.lead.segments = ((clause.child? "path").map segments).getD [externMarker] := by
  rw [lead]
  cases clause.child? "path" <;> rfl

variable {n : Node}

theorem ways_of_rename (h : n.kind = "use_as_clause") :
    n.ways = (n.child? "path").toList.map fun path => ⟨[], .name path⟩ := by
  rw [ways, if_pos h]

theorem ways_of_group (h : n.kind = "use_list") :
    n.ways = n.namedChildren.flatMap fun c => if c.isComment then [] else c.ways := by
  rw [ways, if_neg (by simp [h]), if_pos h,
    List.flatMap_subtype (g := fun c => if c.isComment then [] else c.ways) fun _ _ => rfl,
    List.unattach_attach]

theorem ways_of_below (h : n.kind = "scoped_use_list") :
    n.ways = (((n.child? "list").map ways).getD []).map (Way.below n.lead) := by
  rw [ways, if_neg (by simp [h]), if_neg (by simp [h]), if_pos h]
  split <;> simp_all

theorem ways_of_glob (h : n.kind = "use_wildcard") : n.ways = [⟨[], .glob n⟩] := by
  rw [ways, if_neg (by simp [h]), if_neg (by simp [h]), if_neg (by simp [h]), if_pos h]

theorem ways_of_path (h : n.kind ∉ clauseKinds) : n.ways = [⟨[], .name n⟩] := by
  simp only [clauseKinds, List.mem_cons, List.not_mem_nil, or_false, not_or] at h
  rw [ways, if_neg h.1, if_neg h.2.1, if_neg h.2.2.1, if_neg h.2.2.2]

/-! ## What a clause imports -/

/-- The paths that a clause imports; none if it has no tree. -/
def importedPaths (n : Node) : List RawPath := (n.useTree?.map UseTree.leafPaths).getD []

theorem leafPaths_leafOf {leaf : String → UseTree}
    (hl : ∀ name, (leaf name).leafPaths = [[name]]) (segments : List String) :
    ((leafOf segments leaf).map UseTree.leafPaths).getD []
      = if segments = [] then [] else [segments] := by
  rcases List.eq_nil_or_concat segments with rfl | ⟨init, last, rfl⟩
  · rfl
  · simp [leafOf, UseTree.leafPaths_wrap, hl]

theorem imported?_below (part : Part) (w : Way) :
    (w.below part).imported? = w.imported?.map (part.segments ++ ·) := by
  obtain ⟨above, leaf⟩ := w
  cases leaf with
  | name path => by_cases h : path.segments = [] <;> simp [Way.below, Way.imported?, h]
  | glob clause => simp [Way.below, Way.imported?]

/-- **What a clause imports**, leaf by leaf. -/
theorem importedPaths_eq (n : Node) : n.importedPaths = n.ways.filterMap Way.imported? := by
  induction n using clause_induction with
  | rename n hk =>
    rw [importedPaths, useTree?_of_rename hk, leafPaths_leafOf (fun _ => rfl), ways_of_rename hk]
    cases n.child? "path" with
    | none => rfl
    | some path => by_cases h : path.segments = [] <;> simp [Way.imported?, h]
  | group n hk ih =>
    have hpaths : n.importedPaths = n.namedChildren.flatMap fun c =>
        if c.isComment then [] else c.importedPaths := by
      rw [importedPaths, useTree?_of_group hk, Option.map_some, Option.getD_some,
        UseTree.leafPaths, UseTree.leafPathsIn_filterMap]
      refine List.flatMap_congr fun c _ => ?_
      split <;> rfl
    rw [hpaths, ways_of_group hk, List.filterMap_flatMap]
    refine List.flatMap_congr fun c hc => ?_
    split
    · rfl
    · exact ih c hc
  | below n hk ih =>
    rw [importedPaths, useTree?_of_below hk, ways_of_below hk]
    cases hl : n.child? "list" with
    | none => rfl
    | some list =>
      have hpaths :
          ((list.useTree?.map (UseTree.wrap n.lead.segments)).map UseTree.leafPaths).getD []
            = list.importedPaths.map (n.lead.segments ++ ·) := by
        rw [importedPaths]
        cases list.useTree? with
        | none => rfl
        | some tree => exact UseTree.leafPaths_wrap _ tree
      have himported : Way.imported? ∘ Way.below n.lead
          = fun w => w.imported?.map (n.lead.segments ++ ·) :=
        funext (imported?_below n.lead)
      rw [← segments_lead, Option.bind_some, hpaths, ih list hl, Option.map_some, Option.getD_some,
        List.filterMap_map, himported, List.map_filterMap]
  | glob n hk =>
    rw [importedPaths, useTree?_of_glob hk, ways_of_glob hk]
    simp [UseTree.leafPaths_wrap, UseTree.leafPaths, Way.imported?]
  | path n hk =>
    rw [importedPaths, useTree?_of_path hk, leafPaths_leafOf (fun _ => rfl), ways_of_path hk]
    by_cases h : n.segments = [] <;> simp [Way.imported?, h]

end Node

/-! ## Whole paths -/

namespace UseClause

/-- A glob imports the path before its star, if that names a module. -/
theorem flatMap_starParts (clause : Node)
    (h : ∀ part ∈ starParts clause, part.segments ≠ []) :
    (starParts clause).flatMap Part.segments = clause.globPath := by
  rw [Node.globPath_eq]
  rw [starParts] at h ⊢
  cases hstar : clause.starPath? with
  | none => cases "::".toList.isPrefixOf clause.contents.toList <;> rfl
  | some path =>
    have hpath : path.segments ≠ [] := by
      rw [hstar] at h
      exact h (.path path) List.mem_cons_self
    simp [Part.segments, hpath]

namespace Way

variable {w : Way}

/-- A leaf with a whole path is imported by it. -/
theorem imported?_of_path? {raw : RawPath} (h : w.path? = some raw) : w.imported? = some raw := by
  rw [path?] at h
  split at h
  · rename_i hparts
    cases h
    obtain ⟨above, leaf⟩ := w
    cases leaf with
    | name path =>
      have hpath : path.segments ≠ [] := hparts (.path path) (by simp [parts, Leaf.parts])
      simp [imported?, parts, Leaf.parts, Part.segments, hpath]
    | glob clause =>
      have hstar := flatMap_starParts clause fun part hp =>
        hparts part (List.mem_append_right _ hp)
      simp [imported?, parts, Leaf.parts, hstar]
  · cases h

/-- A way that does not go astray imports the whole path of its leaf, or nothing. -/
theorem path?_eq_imported?_iff : w.path? = w.imported? ↔ ¬w.Astray := by
  constructor
  · rintro h ⟨hsome, part, hp, hnil⟩
    rw [← h, path?, if_neg (fun hall => hall part hp hnil)] at hsome
    cases hsome
  · intro h
    cases hi : w.imported? with
    | none =>
      cases hpath : w.path? with
      | none => rfl
      | some raw => rw [imported?_of_path? hpath] at hi; cases hi
    | some raw =>
      have hall : ∀ part ∈ w.parts, part.segments ≠ [] :=
        fun part hp hnil => h ⟨by rw [hi]; rfl, part, hp, hnil⟩
      have hpath : w.path? = some (w.parts.flatMap Part.segments) := if_pos hall
      rw [hpath, ← hi, imported?_of_path? hpath]

end Way

/-- There are no more whole paths than imported ones. -/
theorem length_whole_le (ways : List Way) :
    (ways.filterMap Way.path?).length ≤ (ways.filterMap Way.imported?).length := by
  induction ways with
  | nil => exact Nat.le_refl 0
  | cons w ways ih =>
    rw [List.filterMap_cons, List.filterMap_cons]
    cases hpath : w.path? with
    | some raw => simpa [Way.imported?_of_path? hpath] using ih
    | none => cases w.imported? <;> simp <;> omega

/-- Whole paths are all that is imported only if the two agree leaf by leaf. -/
theorem filterMap_imported?_eq_iff (ways : List Way) :
    ways.filterMap Way.imported? = ways.filterMap Way.path? ↔ ∀ w ∈ ways, ¬w.Astray := by
  induction ways with
  | nil => simp
  | cons w ways ih =>
    rw [List.forall_mem_cons, ← ih, ← Way.path?_eq_imported?_iff]
    cases hpath : w.path? with
    | some raw =>
      have himported := Way.imported?_of_path? hpath
      rw [List.filterMap_cons_some hpath, List.filterMap_cons_some himported, himported]
      simp
    | none =>
      cases himported : w.imported? with
      | none =>
        rw [List.filterMap_cons_none hpath, List.filterMap_cons_none himported]
        simp
      | some raw =>
        -- One path too many, which the others cannot make up for.
        rw [List.filterMap_cons_none hpath, List.filterMap_cons_some himported]
        refine iff_of_false (fun h => ?_) (by simp)
        have hlen := congrArg List.length h
        have := length_whole_le ways
        simp only [List.length_cons] at hlen
        omega

/-- **A clause imports whole paths, unless a way goes astray.**  What a clause imports is what is
imported for each of its leaves, from left to right.  These are the whole paths, with nothing for a
leaf below a path that names no module, exactly if no way goes astray. -/
theorem clause_imports_whole_paths {n : Node} {tree : UseTree} (h : n.useTree? = some tree) :
    ∃ paths, tree.flatten [] = .ok paths ∧ paths = n.ways.filterMap Way.imported? ∧
      (paths = n.ways.filterMap Way.path? ↔ ∀ w ∈ n.ways, ¬w.Astray) := by
  have hpaths : tree.leafPaths = n.ways.filterMap Way.imported? := by
    rw [← Node.importedPaths_eq, Node.importedPaths, h]
    rfl
  refine ⟨tree.leafPaths, ?_, hpaths, ?_⟩
  · rw [UseTree.flatten_eq, Node.foreign?_of_useTree? h]
    simp
  · rw [hpaths]
    exact filterMap_imported?_eq_iff n.ways

namespace Sample

open Build.Sample Node

/-- A name in a use clause. -/
def word (text : String) (column : Nat) (field : Option String) : Node :=
  node "identifier" text column field []

/-- The path `<T>::x`, which leads through a type. -/
def typePath : Node :=
  node "scoped_identifier" "<T>::x" 4 (some "path") [
    node "bracketed_type" "<T>" 4 (some "path") [
      mark "<" 4,
      node "type_identifier" "T" 5 none [],
      mark ">" 6],
    mark "::" 7,
    word "x" 9 (some "name")]

/-- A clause with a single name `b` in braces after a path. -/
def braced (text : String) (path : Node) : Node :=
  node "scoped_use_list" text 4 (some "argument") [
    path,
    mark "::" 10,
    node "use_list" "\x7bb\x7d" 12 (some "list") [
      mark "\x7b" 12,
      word "b" 13 none,
      mark "\x7d" 14]]

theorem segments_word (text : String) (column : Nat) (field : Option String) :
    (word text column field).segments = [plainName text] :=
  segments_of_name rfl

theorem segments_typePath : typePath.segments = [] := by
  rw [segments_of_scoped rfl]
  simp [typePath, word, node, mark, child?, segments_of_other, isSegment]

variable {path : Node}

theorem child?_braced (text : String) (h : path.field = some "path") :
    (braced text path).child? "path" = some path ∧
      ∃ list, (braced text path).child? "list" = some list ∧ list.kind = "use_list" ∧
        list.namedChildren = [word "b" 13 none] := by
  refine ⟨?_, node "use_list" "\x7bb\x7d" 12 (some "list")
    [mark "\x7b" 12, word "b" 13 none, mark "\x7d" 14], ?_, rfl, rfl⟩
  · simp [child?, braced, node, h]
  · simp [child?, braced, node, mark, h]

theorem useTree?_braced (text : String) (h : path.field = some "path") :
    (braced text path).useTree? = some (UseTree.wrap path.segments (.group [.name "b"])) := by
  obtain ⟨hpath, list, hlist, hk, hchildren⟩ := child?_braced text h
  have hname : (word "b" 13 none).useTree? = some (.name "b") := by
    rw [useTree?_of_path (by decide), segments_word]
    rfl
  have hcomment : (word "b" 13 none).isComment = false := rfl
  rw [useTree?_of_below rfl, hlist, hpath, Option.bind_some, useTree?_of_group hk, hchildren]
  simp [hname, hcomment]

theorem ways_braced (text : String) (h : path.field = some "path") :
    (braced text path).ways = [⟨[.path path], .name (word "b" 13 none)⟩] := by
  obtain ⟨hpath, list, hlist, hk, hchildren⟩ := child?_braced text h
  have hname : (word "b" 13 none).ways = [⟨[], .name (word "b" 13 none)⟩] :=
    ways_of_path (by decide)
  have hcomment : (word "b" 13 none).isComment = false := rfl
  rw [ways_of_below rfl, hlist, lead, hpath, Option.map_some, ways_of_group hk, hchildren]
  simp [hname, hcomment, Way.below]

/-- The clause `a::{b}`. -/
def plainBraces : Node := braced "a::\x7bb\x7d" (word "a" 4 (some "path"))

/-- The clause `<T>::x::{b}`. -/
def typeBraces : Node := braced "<T>::x::\x7bb\x7d" typePath

end Sample

/-- In `a::{b}` no way goes astray, and the whole path is imported. -/
theorem whole_path_in_braces :
    ∃ tree, Sample.plainBraces.useTree? = some tree ∧
      (∀ w ∈ Sample.plainBraces.ways, ¬w.Astray) ∧ tree.flatten [] = .ok [["a", "b"]] := by
  have ht : Sample.plainBraces.useTree? = some (.path "a" (.group [.name "b"])) := by
    rw [Sample.plainBraces, Sample.useTree?_braced _ rfl, Sample.segments_word]
    rfl
  have hwhole : Sample.plainBraces.ways.filterMap Way.path? = [["a", "b"]] := by
    rw [Sample.plainBraces, Sample.ways_braced _ rfl]
    simp [Way.path?, Way.parts, Leaf.parts, Part.segments, Sample.segments_word, plainName]
  obtain ⟨paths, hflat, -, hiff⟩ := clause_imports_whole_paths ht
  obtain rfl : [["a", "b"]] = paths := Except.ok.inj hflat
  exact ⟨_, ht, hiff.1 hwhole.symm, hflat⟩

/-- Though `<T>::x` names no module, and imports nothing where it stands alone, the clause
`<T>::x::{b}` imports `b`. -/
theorem name_in_braces_astray :
    Sample.typePath.segments = [] ∧ Sample.typePath.useTree? = none ∧
      Sample.typeBraces.child? "path" = some Sample.typePath ∧
      Sample.typeBraces.ways.filterMap Way.path? = [] ∧
      ∃ tree, Sample.typeBraces.useTree? = some tree ∧ tree.flatten [] = .ok [["b"]] := by
  have htype : Sample.typePath.useTree? = none := by
    rw [Node.useTree?_of_path (by decide), Sample.segments_typePath]
    rfl
  refine ⟨Sample.segments_typePath, htype, (Sample.child?_braced _ rfl).1, ?_, _,
    Sample.useTree?_braced _ rfl, ?_⟩
  · rw [Sample.typeBraces, Sample.ways_braced _ rfl]
    simp [Way.path?, Way.parts, Part.segments, Sample.segments_typePath]
  · rw [Sample.segments_typePath]
    rfl

end UseClause

end CrateAtlas
