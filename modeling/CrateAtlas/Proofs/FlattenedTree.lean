import CrateAtlas.Failure
import CrateAtlas.Proofs.UseItems

/-!
# Leaves in the order of the text

A subtree of a use tree is found by its *address*: on the way down from the top, the number of the
item that is taken at each step.  `Occurs` says what stands at which address, and which segments lie
on the way there.  Addresses are compared like words in a dictionary, and **this is the order of the
text**: a tree comes before what is inside it, and an item before all of the next one.

`occurrences` lists what occurs in a tree (`mem_occurrences`), in this order
(`pairwise_occurrences`).  Flattening can be read off that list.

* If a foreign value is in it, the first one is reported (`foreign?_eq_findSome?`).
* If not, there is one path for each leaf, from left to right: the segments on the way to it, and
  its name (`leafPaths_eq_map`).

Neither depends on the segments that were given at the start, except that these come first in every
path.  So nothing leaks from one item of a group to the next, at any depth, and a chain of segments
on top of a tree amounts to the same segments given at the start (`flatten_wrap`).
-/

set_option autoImplicit false

namespace CrateAtlas

namespace UseTree

/-! ## Subtrees and their places -/

/-- A subtree in its place. -/
structure Occurrence where
  /-- The number of the item taken at each step on the way down. -/
  address : List Nat
  /-- The segments on the way. -/
  above : RawPath
  /-- What stands there. -/
  tree : UseTree

namespace Occurrence

/-- The same subtree, seen from one step further up. -/
def under (i : Nat) (segments : List String) (o : Occurrence) : Occurrence :=
  ⟨i :: o.address, segments ++ o.above, o.tree⟩

/-- The order of the text. -/
def Before (o o' : Occurrence) : Prop := List.Lex (· < ·) o.address o'.address

theorem Before.under {o o' : Occurrence} (h : o.Before o') (i : Nat) (segments : List String) :
    (o.under i segments).Before (o'.under i segments) :=
  List.Lex.cons h

theorem before_under_of_lt {i j : Nat} (h : i < j) (segments : List String) (o o' : Occurrence) :
    (o.under i segments).Before (o'.under j segments) :=
  List.Lex.rel h

theorem before_under (tree : UseTree) (i : Nat) (segments : List String) (o : Occurrence) :
    Before ⟨[], [], tree⟩ (o.under i segments) :=
  List.Lex.nil

end Occurrence

open Occurrence

/-- What occurs in a tree. -/
inductive Occurs : UseTree → Occurrence → Prop
  | here (tree : UseTree) : Occurs tree ⟨[], [], tree⟩
  | path {segment : String} {tree : UseTree} {o : Occurrence} (h : Occurs tree o) :
      Occurs (.path segment tree) (o.under 0 [segment])
  | item {items : List UseTree} {i : Nat} {tree : UseTree} {o : Occurrence}
      (hi : items[i]? = some tree) (h : Occurs tree o) : Occurs (.group items) (o.under i [])

mutual

/-- Everything that occurs in a tree, in the order of the text. -/
def occurrences : UseTree → List Occurrence
  | .path segment tree =>
    ⟨[], [], .path segment tree⟩ :: (occurrences tree).map (under 0 [segment])
  | .group items => ⟨[], [], .group items⟩ :: occurrencesFrom 0 items
  | .name segment => [⟨[], [], .name segment⟩]
  | .rename segment newName => [⟨[], [], .rename segment newName⟩]
  | .glob => [⟨[], [], .glob⟩]
  | .foreign value => [⟨[], [], .foreign value⟩]

/-- Everything that occurs in the items of a group, from the item with the given number on. -/
def occurrencesFrom (i : Nat) : List UseTree → List Occurrence
  | [] => []
  | tree :: rest => (occurrences tree).map (under i []) ++ occurrencesFrom (i + 1) rest

end

/-- **Induction over use trees**: over what follows a segment, and over the items of a group. -/
theorem tree_induction {P : UseTree → Prop}
    (path : ∀ segment tree, P tree → P (.path segment tree)) (name : ∀ segment, P (.name segment))
    (rename : ∀ segment newName, P (.rename segment newName)) (glob : P .glob)
    (group : ∀ items, (∀ tree ∈ items, P tree) → P (.group items))
    (foreign : ∀ value, P (.foreign value)) : ∀ tree, P tree
  | .path segment tree =>
    path segment tree (tree_induction path name rename glob group foreign tree)
  | .name segment => name segment
  | .rename segment newName => rename segment newName
  | .glob => glob
  | .group items =>
    group items fun tree _ => tree_induction path name rename glob group foreign tree
  | .foreign value => foreign value

theorem mem_occurrencesFrom {i : Nat} {items : List UseTree} {o : Occurrence} :
    o ∈ occurrencesFrom i items ↔ ∃ (j : Nat) (tree : UseTree) (o' : Occurrence),
      items[j]? = some tree ∧ o' ∈ tree.occurrences ∧ o = o'.under (i + j) [] := by
  induction items generalizing i with
  | nil => simp [occurrencesFrom]
  | cons first rest ih =>
    rw [occurrencesFrom, List.mem_append, List.mem_map, ih]
    constructor
    · rintro (⟨o', ho', rfl⟩ | ⟨j, tree, o', hj, ho', rfl⟩)
      · exact ⟨0, first, o', rfl, ho', rfl⟩
      · exact ⟨j + 1, tree, o', hj, ho', by rw [Nat.add_right_comm, Nat.add_assoc]⟩
    · rintro ⟨_ | j, tree, o', hj, ho', rfl⟩
      · cases hj
        exact .inl ⟨o', ho', rfl⟩
      · exact .inr ⟨j, tree, o', hj, ho', by rw [Nat.add_right_comm, Nat.add_assoc]⟩

/-- **The list holds what occurs in the tree**, and nothing else. -/
theorem mem_occurrences {tree : UseTree} {o : Occurrence} :
    o ∈ tree.occurrences ↔ tree.Occurs o := by
  constructor
  · intro h
    induction tree using tree_induction generalizing o with
    | path segment tree ih =>
      rw [occurrences, List.mem_cons, List.mem_map] at h
      obtain rfl | ⟨o', ho', rfl⟩ := h
      · exact .here _
      · exact .path (ih ho')
    | group items ih =>
      rw [occurrences, List.mem_cons, mem_occurrencesFrom] at h
      obtain rfl | ⟨j, tree, o', hj, ho', rfl⟩ := h
      · exact .here _
      · rw [Nat.zero_add]
        exact .item hj (ih tree (List.mem_of_getElem? hj) ho')
    | name segment => rw [List.mem_singleton.1 h]; exact .here _
    | rename segment newName => rw [List.mem_singleton.1 h]; exact .here _
    | glob => rw [List.mem_singleton.1 h]; exact .here _
    | foreign value => rw [List.mem_singleton.1 h]; exact .here _
  · intro h
    induction h with
    | here tree => cases tree <;> exact List.mem_cons_self
    | path _ ih => exact List.mem_cons_of_mem _ (List.mem_map_of_mem ih)
    | @item items i tree o hi _ ih =>
      refine List.mem_cons_of_mem _ (mem_occurrencesFrom.2 ⟨i, tree, o, hi, ih, ?_⟩)
      rw [Nat.zero_add]

theorem pairwise_occurrencesFrom {items : List UseTree}
    (h : ∀ tree ∈ items, tree.occurrences.Pairwise Before) (i : Nat) :
    (occurrencesFrom i items).Pairwise Before := by
  induction items generalizing i with
  | nil => exact .nil
  | cons first rest ih =>
    rw [List.forall_mem_cons] at h
    rw [occurrencesFrom, List.pairwise_append]
    refine ⟨?_, ih h.2 (i + 1), fun o ho o' ho' => ?_⟩
    · exact List.pairwise_map.2 (h.1.imp fun hlt => hlt.under i [])
    · -- The addresses of later items start with a higher number.
      obtain ⟨o, -, rfl⟩ := List.mem_map.1 ho
      obtain ⟨j, tree, o', -, -, rfl⟩ := mem_occurrencesFrom.1 ho'
      exact before_under_of_lt (by omega) [] o o'

/-- **The list is in the order of the text.** -/
theorem pairwise_occurrences (tree : UseTree) : tree.occurrences.Pairwise Before := by
  induction tree using tree_induction with
  | path segment tree ih =>
    rw [occurrences, List.pairwise_cons]
    refine ⟨fun o ho => ?_, List.pairwise_map.2 (ih.imp fun hlt => hlt.under 0 [segment])⟩
    obtain ⟨o, -, rfl⟩ := List.mem_map.1 ho
    exact before_under _ 0 [segment] o
  | group items ih =>
    rw [occurrences, List.pairwise_cons]
    refine ⟨fun o ho => ?_, pairwise_occurrencesFrom ih 0⟩
    obtain ⟨j, tree, o, -, -, rfl⟩ := mem_occurrencesFrom.1 ho
    exact before_under _ (0 + j) [] o
  | name segment => exact List.pairwise_singleton _ _
  | rename segment newName => exact List.pairwise_singleton _ _
  | glob => exact List.pairwise_singleton _ _
  | foreign value => exact List.pairwise_singleton _ _

/-! ## Reading the list -/

/-- The value of a tree that is none. -/
def ownValue? : UseTree → Option Value
  | .foreign value => some value
  | _ => none

theorem ownValue?_eq_some_iff {tree : UseTree} {value : Value} :
    tree.ownValue? = some value ↔ tree = .foreign value := by
  cases tree <;> simp [ownValue?]

/-- Whether a tree is a leaf: a name, a renamed name or a glob. -/
def isLeaf : UseTree → Bool
  | .name _ | .rename _ _ | .glob => true
  | _ => false

/-- The name that a leaf adds to its path.  A glob has none. -/
def ownName : UseTree → List String
  | .name segment => [segment]
  | .rename segment _ => [segment]
  | _ => []

namespace Occurrence

/-- The path to an occurrence, with its own name at the end. -/
def path (o : Occurrence) : RawPath := o.above ++ o.tree.ownName

theorem path_under (i : Nat) (segments : List String) (o : Occurrence) :
    (o.under i segments).path = segments ++ o.path :=
  List.append_assoc _ _ _

end Occurrence

/-- The leaves of a tree in their places, from left to right. -/
def leaves (tree : UseTree) : List Occurrence := tree.occurrences.filter fun o => o.tree.isLeaf

/-- What is found in subtrees does not depend on where they stand. -/
theorem findSome?_map_under {α : Type} (f : UseTree → Option α) (i : Nat)
    (segments : List String) (l : List Occurrence) :
    (l.map (under i segments)).findSome? (fun o => f o.tree) = l.findSome? fun o => f o.tree :=
  List.findSome?_map

theorem map_path_filter_under (i : Nat) (segments : List String) (l : List Occurrence) :
    ((l.map (under i segments)).filter fun o => o.tree.isLeaf).map Occurrence.path
      = ((l.filter fun o => o.tree.isLeaf).map Occurrence.path).map (segments ++ ·) := by
  rw [List.filter_map, List.map_map, List.map_map]
  exact List.map_congr_left fun o _ => path_under i segments o

theorem foreignIn?_eq_findSome? {items : List UseTree}
    (h : ∀ tree ∈ items, tree.foreign? = tree.occurrences.findSome? fun o => o.tree.ownValue?)
    (i : Nat) :
    foreignIn? items = (occurrencesFrom i items).findSome? fun o => o.tree.ownValue? := by
  induction items generalizing i with
  | nil => rfl
  | cons first rest ih =>
    rw [List.forall_mem_cons] at h
    rw [foreignIn?, h.1, ih h.2 (i + 1), occurrencesFrom, List.findSome?_append,
      findSome?_map_under]

/-- **The leftmost foreign value** is the first one in the order of the text. -/
theorem foreign?_eq_findSome? (tree : UseTree) :
    tree.foreign? = tree.occurrences.findSome? fun o => o.tree.ownValue? := by
  induction tree using tree_induction with
  | path segment tree ih =>
    rw [foreign?, ih, occurrences, List.findSome?_cons, findSome?_map_under]
    rfl
  | group items ih => exact foreignIn?_eq_findSome? ih 0
  | name segment => rfl
  | rename segment newName => rfl
  | glob => rfl
  | foreign value => rfl

theorem leafPathsIn_eq_map {items : List UseTree}
    (h : ∀ tree ∈ items, tree.leafPaths = tree.leaves.map Occurrence.path) (i : Nat) :
    leafPathsIn items
      = ((occurrencesFrom i items).filter fun o => o.tree.isLeaf).map Occurrence.path := by
  induction items generalizing i with
  | nil => rfl
  | cons first rest ih =>
    rw [List.forall_mem_cons] at h
    rw [leafPathsIn, h.1, ih h.2 (i + 1), occurrencesFrom, List.filter_append, List.map_append,
      map_path_filter_under]
    simp [leaves]

/-- **The paths of a tree** are those to its leaves. -/
theorem leafPaths_eq_map (tree : UseTree) :
    tree.leafPaths = tree.leaves.map Occurrence.path := by
  induction tree using tree_induction with
  | path segment tree ih =>
    rw [leafPaths, ih]
    exact (map_path_filter_under 0 [segment] tree.occurrences).symm
  | group items ih => exact leafPathsIn_eq_map ih 0
  | name segment => rfl
  | rename segment newName => rfl
  | glob => rfl
  | foreign value => rfl

/-! ## Flattening -/

/-- A chain of segments on top of a tree comes after the given segments. -/
theorem flatten_wrap (segments : List String) (tree : UseTree) (before : RawPath) :
    (wrap segments tree).flatten before = tree.flatten (before ++ segments) := by
  induction segments generalizing before with
  | nil => rw [List.append_nil]; rfl
  | cons segment segments ih =>
    have hwrap : wrap (segment :: segments) tree = .path segment (wrap segments tree) := rfl
    rw [hwrap, flatten, ih, List.append_assoc, List.singleton_append]

/-- The value is the leftmost foreign one of the tree. -/
def LeftmostForeign (tree : UseTree) (value : Value) : Prop :=
  ∃ first, tree.Occurs first ∧ first.tree = .foreign value ∧
    ∀ o other, tree.Occurs o → o.tree = .foreign other → o = first ∨ first.Before o

theorem leftmostForeign_of_foreign? {tree : UseTree} {value : Value}
    (h : tree.foreign? = some value) : tree.LeftmostForeign value := by
  rw [foreign?_eq_findSome?, List.findSome?_eq_some_iff] at h
  obtain ⟨before, first, after, hsplit, hfirst, hbefore⟩ := h
  have hsorted := hsplit ▸ tree.pairwise_occurrences
  refine ⟨first, mem_occurrences.1 (by simp [hsplit]), ownValue?_eq_some_iff.1 hfirst, ?_⟩
  intro o other ho hother
  rw [← mem_occurrences, hsplit, List.mem_append, List.mem_cons] at ho
  obtain ho | rfl | ho := ho
  · have hnone := hbefore o ho
    rw [ownValue?_eq_some_iff.2 hother] at hnone
    cases hnone
  · exact .inl rfl
  · exact .inr ((List.pairwise_cons.1 (List.pairwise_append.1 hsorted).2.1).1 o ho)

theorem foreign?_eq_none_iff {tree : UseTree} :
    tree.foreign? = none ↔ ∀ o value, tree.Occurs o → o.tree ≠ .foreign value := by
  rw [foreign?_eq_findSome?, List.findSome?_eq_none_iff]
  constructor
  · intro h o value ho hvalue
    have hnone := h o (mem_occurrences.2 ho)
    rw [ownValue?_eq_some_iff.2 hvalue] at hnone
    cases hnone
  · intro h o ho
    rw [Option.eq_none_iff_forall_ne_some]
    exact fun value hvalue => h o value (mem_occurrences.1 ho) (ownValue?_eq_some_iff.1 hvalue)

/-- Flattening fails on the leftmost foreign value, if there is one. -/
theorem flatten_eq_error_iff {tree : UseTree} {before : RawPath} {f : Failure} :
    tree.flatten before = .error f ↔
      ∃ value, tree.foreign? = some value ∧ f = .ofForeign value := by
  rw [flatten_eq]
  cases tree.foreign? <;> simp [@eq_comm _ f]

/-- The list holds the leaves of the tree in their places, each once and from left to right. -/
structure ListsLeaves (tree : UseTree) (l : List Occurrence) : Prop where
  mem_iff : ∀ o, o ∈ l ↔ tree.Occurs o ∧ o.tree.isLeaf = true
  inOrder : l.Pairwise Before

theorem listsLeaves_leaves (tree : UseTree) : tree.ListsLeaves tree.leaves where
  mem_iff o := by rw [leaves, List.mem_filter, mem_occurrences]
  inOrder := tree.pairwise_occurrences.filter _

/-- The failure on a value that can be written names it. -/
theorem ofForeign_eq {value : Value} (h : value.hasLong = false) :
    Failure.ofForeign value = .foreignUse value.quoted := by
  rw [Failure.ofForeign, h]
  rfl

namespace Sample

/-- The clause `a::{b::{c, d as e}, *, f}`. -/
def nested : UseTree :=
  .path "a" (.group [.path "b" (.group [.name "c", .rename "d" "e"]), .glob, .name "f"])

/-- The same clause with the number 5 in the place of `d as e` and the number 7 in that of `f`. -/
def mixed : UseTree :=
  .path "a" (.group [.path "b" (.group [.name "c", .foreign (.int 5)]), .glob, .foreign (.int 7)])

end Sample

end UseTree

end CrateAtlas
