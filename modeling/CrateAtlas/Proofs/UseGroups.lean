import Mathlib.Logic.Relation
import CrateAtlas.Proofs.AbsolutePath

/-!
# Grouping of imports

What a module imports is a matter of the leaves of its use trees alone.  The targets are those of
the leaf paths, taken from left to right, **each where it comes first** (`targets_eq`).  Where a
path is cut into a group, whether two clauses share a `use` item, and under which name something is
imported makes no difference.

`Regroups` spells out the ways in which a list of use trees may be written differently.  Each of
them keeps the leaf paths and their order (`Regroups.leafPathsIn_eq`), so that any number of them,
in either direction, leads to the same targets (`targets_of_leaves`).
-/

set_option autoImplicit false

namespace CrateAtlas

namespace UseTree

/-! ## Leaves of lists -/

theorem foreignIn?_append (trees others : List UseTree) :
    foreignIn? (trees ++ others) = (foreignIn? trees).or (foreignIn? others) := by
  induction trees with
  | nil => simp [foreignIn?]
  | cons tree rest ih => rw [List.cons_append, foreignIn?, ih, foreignIn?, Option.or_assoc]

theorem leafPathsIn_append (trees others : List UseTree) :
    leafPathsIn (trees ++ others) = leafPathsIn trees ++ leafPathsIn others := by
  rw [leafPathsIn_eq, leafPathsIn_eq, leafPathsIn_eq, List.flatMap_append]

theorem foreignIn?_singleton (tree : UseTree) : foreignIn? [tree] = tree.foreign? := by
  simp [foreignIn?]

theorem leafPathsIn_singleton (tree : UseTree) : leafPathsIn [tree] = tree.leafPaths := by
  simp [leafPathsIn]

theorem leafPaths_wrap (segments : List String) (tree : UseTree) :
    (wrap segments tree).leafPaths = tree.leafPaths.map (segments ++ ·) := by
  induction segments with
  | nil => simp [wrap]
  | cons segment segments ih =>
    have hwrap : wrap (segment :: segments) tree = .path segment (wrap segments tree) := rfl
    rw [hwrap, leafPaths, ih, List.map_map]
    rfl

theorem foreignIn?_map_wrap (segments : List String) (trees : List UseTree) :
    foreignIn? (trees.map (wrap segments)) = foreignIn? trees := by
  induction trees with
  | nil => rfl
  | cons tree rest ih => rw [List.map_cons, foreignIn?, foreign?_wrap, ih, foreignIn?]

theorem leafPathsIn_map_wrap (segments : List String) (trees : List UseTree) :
    leafPathsIn (trees.map (wrap segments)) = (leafPathsIn trees).map (segments ++ ·) := by
  induction trees with
  | nil => rfl
  | cons tree rest ih =>
    rw [List.map_cons, leafPathsIn, leafPaths_wrap, ih, leafPathsIn, List.map_append]

/-! ## Writing use trees differently -/

/-- The ways to write a list of use trees differently. -/
inductive Regroups : List UseTree → List UseTree → Prop
  /-- A group becomes separate trees, each below the path of the group. -/
  | spread (segments : List String) (items : List UseTree) :
      Regroups [wrap segments (.group items)] (items.map (wrap segments))
  /-- A group becomes two groups below the same path. -/
  | split (segments : List String) (items others : List UseTree) :
      Regroups [wrap segments (.group (items ++ others))]
        [wrap segments (.group items), wrap segments (.group others)]
  /-- A name is imported under another alias. -/
  | renamed (segments : List String) (name old new : String) :
      Regroups [wrap segments (.rename name old)] [wrap segments (.rename name new)]
  /-- The items of a group are written differently. -/
  | inside (segments : List String) {items items' : List UseTree} (h : Regroups items items') :
      Regroups [wrap segments (.group items)] [wrap segments (.group items')]
  /-- Some trees among others are written differently. -/
  | among (before after : List UseTree) {trees trees' : List UseTree}
      (h : Regroups trees trees') : Regroups (before ++ trees ++ after) (before ++ trees' ++ after)

namespace Regroups

variable {trees trees' : List UseTree}

theorem foreignIn?_eq (h : Regroups trees trees') : foreignIn? trees' = foreignIn? trees := by
  induction h with
  | spread segments items =>
    rw [foreignIn?_map_wrap, foreignIn?_singleton, foreign?_wrap, foreign?]
  | split segments items others =>
    simp only [foreignIn?, foreign?_wrap, foreign?, foreignIn?_append, Option.or_none]
  | renamed segments name old new => simp only [foreignIn?_singleton, foreign?_wrap, foreign?]
  | inside segments _ ih => simp only [foreignIn?_singleton, foreign?_wrap, foreign?, ih]
  | among before after _ ih => simp only [foreignIn?_append, ih]

theorem leafPathsIn_eq (h : Regroups trees trees') : leafPathsIn trees' = leafPathsIn trees := by
  induction h with
  | spread segments items =>
    rw [leafPathsIn_map_wrap, leafPathsIn_singleton, leafPaths_wrap, leafPaths]
  | split segments items others =>
    simp only [leafPathsIn, leafPaths_wrap, leafPaths, leafPathsIn_append, List.map_append,
      List.append_nil]
  | renamed segments name old new => simp only [leafPathsIn_singleton, leafPaths_wrap, leafPaths]
  | inside segments _ ih => simp only [leafPathsIn_singleton, leafPaths_wrap, leafPaths, ih]
  | among before after _ ih => simp only [leafPathsIn_append, ih]

end Regroups

end UseTree

/-! ## Targets -/

namespace ImportTarget

/-- What is left without repetitions are the first occurrences. -/
theorem distinct_eq (paths : List ModulePath) : distinct paths = paths.eraseDups := by
  -- Both collect backwards what they have not met before.
  have hloop : ∀ acc : List ModulePath,
      (paths.foldl (fun acc p => if acc.contains p then acc else p :: acc) acc).reverse
        = List.eraseDupsBy.loop (· == ·) paths acc := by
    induction paths with
    | nil => exact fun acc => rfl
    | cons p paths ih =>
      intro acc
      have hany : acc.any (p == ·) = acc.contains p := List.any_beq
      rw [List.foldl_cons, ih, List.eraseDupsBy.loop, hany]
      cases acc.contains p <;> rfl
  exact hloop []

/-- **The targets of a module**: those of the leaf paths of its use trees. -/
theorem targets_eq (known : ModulePath → Bool) (current : ModulePath) (trees : List UseTree) :
    targets known current trees = (UseTree.foreignIn? trees).elim
      (.ok ((UseTree.leafPathsIn trees).filterMap (target? known current)).eraseDups)
      (.error ∘ .ofForeign) := by
  rw [targets, UseTree.flattenAll_eq]
  cases UseTree.foreignIn? trees with
  | some value => rfl
  | none => simp [distinct_eq]

/-- **Only the leaves count.**  The targets of a module are those of the leaf paths of its use
trees, from left to right and without repetitions; a foreign value is reported instead.  They stay
the same however the trees are regrouped. -/
theorem targets_of_leaves (known : ModulePath → Bool) (current : ModulePath)
    (trees : List UseTree) :
    ((∀ tree ∈ trees, tree.foreign? = none) → targets known current trees
      = .ok ((trees.flatMap UseTree.leafPaths).filterMap (target? known current)).eraseDups) ∧
    (∀ value, UseTree.foreignIn? trees = some value →
      targets known current trees = .error (.ofForeign value)) ∧
    ∀ trees', Relation.EqvGen UseTree.Regroups trees trees' →
      targets known current trees' = targets known current trees := by
  refine ⟨fun h => ?_, fun value h => ?_, fun trees' h => ?_⟩
  · rw [targets_eq, UseTree.foreignIn?_eq_none_iff.2 h, UseTree.leafPathsIn_eq]
    rfl
  · rw [targets_eq, h]
    rfl
  · induction h with
    | rel trees trees' h => rw [targets_eq, targets_eq, h.foreignIn?_eq, h.leafPathsIn_eq]
    | refl trees => rfl
    | symm trees trees' _ ih => exact ih.symm
    | trans trees trees' trees'' _ _ ih ih' => exact ih'.trans ih

namespace Sample

/-- The clause `crate::{alpha::{self, A as B}, beta::*}`. -/
def grouped : List UseTree :=
  [.path "crate" (.group [.path "alpha" (.group [.name "self", .rename "A" "B"]),
    .path "beta" .glob])]

/-- The clauses `crate::alpha::self`, `crate::alpha::A as C` and `crate::beta::*`. -/
def separate : List UseTree :=
  [.path "crate" (.path "alpha" (.name "self")),
    .path "crate" (.path "alpha" (.rename "A" "C")), .path "crate" (.path "beta" .glob)]

theorem regroups_grouped : Relation.EqvGen UseTree.Regroups grouped separate := by
  -- The inner group is spread, then the outer one, and at last the alias is changed.
  have hinner : UseTree.Regroups grouped [.path "crate" (.group [.path "alpha" (.name "self"),
      .path "alpha" (.rename "A" "B"), .path "beta" .glob])] :=
    .inside ["crate"] (.among [] [.path "beta" .glob]
      (.spread ["alpha"] [.name "self", .rename "A" "B"]))
  have houter : UseTree.Regroups [.path "crate" (.group [.path "alpha" (.name "self"),
      .path "alpha" (.rename "A" "B"), .path "beta" .glob])]
      [.path "crate" (.path "alpha" (.name "self")),
        .path "crate" (.path "alpha" (.rename "A" "B")), .path "crate" (.path "beta" .glob)] :=
    .spread ["crate"] [.path "alpha" (.name "self"), .path "alpha" (.rename "A" "B"),
      .path "beta" .glob]
  have halias : UseTree.Regroups [.path "crate" (.path "alpha" (.name "self")),
      .path "crate" (.path "alpha" (.rename "A" "B")), .path "crate" (.path "beta" .glob)]
      separate :=
    .among [.path "crate" (.path "alpha" (.name "self"))] [.path "crate" (.path "beta" .glob)]
      (.renamed ["crate", "alpha"] "A" "B" "C")
  exact .trans _ _ _ (.rel _ _ hinner) (.trans _ _ _ (.rel _ _ houter) (.rel _ _ halias))

end Sample

/-- A nested group and its separate clauses lead to the same two modules, each named once. -/
theorem targets_of_grouped :
    (∀ tree ∈ Sample.separate, tree.foreign? = none) ∧
      Relation.EqvGen UseTree.Regroups Sample.grouped Sample.separate ∧
      targets Sample.isModule .root Sample.separate = .ok [⟨["alpha"]⟩, ⟨["beta"]⟩] ∧
      targets Sample.isModule .root Sample.grouped = .ok [⟨["alpha"]⟩, ⟨["beta"]⟩] := by
  have hforeign : ∀ tree ∈ Sample.separate, tree.foreign? = none := by
    simp [Sample.separate, UseTree.foreign?]
  have hleaves : ((Sample.separate.flatMap UseTree.leafPaths).filterMap
      (target? Sample.isModule .root)).eraseDups = [⟨["alpha"]⟩, ⟨["beta"]⟩] := by decide
  have hseparate : targets Sample.isModule .root Sample.separate
      = .ok [⟨["alpha"]⟩, ⟨["beta"]⟩] := by
    rw [(targets_of_leaves Sample.isModule .root Sample.separate).1 hforeign, hleaves]
  obtain ⟨-, -, hsame⟩ := targets_of_leaves Sample.isModule .root Sample.grouped
  exact ⟨hforeign, Sample.regroups_grouped, hseparate,
    (hsame _ Sample.regroups_grouped).symm.trans hseparate⟩

end ImportTarget

end CrateAtlas
