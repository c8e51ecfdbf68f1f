import Mathlib.Logic.Relation
import CrateAtlas.Proofs.BuiltGraph
import CrateAtlas.Proofs.UseItems

/-!
# Comments and attributes between items

Comments may stand anywhere in a source file, and most attributes are of no concern here.  Both are
nodes of the syntax tree like the items themselves, so that reading the items has to pass over them:
the search for a `path` attribute, which goes backwards from a `mod` item, and the list of a `use`
item, each in its own way.

`Inserts n n'` says that `n'` is the syntax tree of a block with one more such node in it, at any
place where one may stand: among the items of the block or of an inline module, however deeply
nested, and inside the braces of a `use` item.  **The block that is read off the tree stays the
same** (`ofNode_of_inserts`), and so it does after any number of insertions
(`block_unaffected_by_padding`).
-/

set_option autoImplicit false

namespace CrateAtlas

namespace Node

/-! ## Padding -/

/-- An attribute item carries a path if one of its attributes gives a string as the value of
`path`. -/
def CarriesPath (item : Node) : Prop :=
  ∃ attr ∈ item.namedChildren, attr.kind = "attribute" ∧
    (∃ name, attr.namedChildren.head? = some name ∧ name.kind = "identifier" ∧
      name.contents = "path") ∧
    ∃ value, attr.child? "value" = some value ∧
      (value.kind = "string_literal" ∨ value.kind = "raw_string_literal")

/-- A node that says nothing about the items around it: a comment, or an attribute item without a
path. -/
def IsPadding (n : Node) : Prop :=
  n.isComment = true ∨ n.kind = "attribute_item" ∧ ¬n.CarriesPath

theorem pathValue?_eq_none_iff {attr : Node} :
    attr.pathValue? = none ↔ ¬(attr.kind = "attribute" ∧
      (∃ name, attr.namedChildren.head? = some name ∧ name.kind = "identifier" ∧
        name.contents = "path") ∧
      ∃ value, attr.child? "value" = some value ∧
        (value.kind = "string_literal" ∨ value.kind = "raw_string_literal")) := by
  rw [pathValue?]
  by_cases hk : attr.kind = "attribute"
  · cases hchildren : attr.namedChildren with
    | nil => simp [hk]
    | cons name rest =>
      by_cases hname : name.kind = "identifier" ∧ name.contents = "path"
      · cases hvalue : attr.child? "value" with
        | none => simp [hk]
        | some value => simp [hk, hname]
      · simp [hk, hname]
  · simp [hk]

/-- No file is named by an attribute item that carries no path, and by no other. -/
theorem overrideIn?_eq_none_iff {item : Node} : item.overrideIn? = none ↔ ¬item.CarriesPath := by
  simp only [overrideIn?, List.findSome?_eq_none_iff, pathValue?_eq_none_iff, CarriesPath,
    not_exists, not_and]

/-- The same node with other nodes below. -/
def withChildren (n : Node) (children : List Node) : Node := { n with children := children }

theorem namedChildren_withChildren (n : Node) (children : List Node) :
    (n.withChildren children).namedChildren = children.filter named := rfl

/-- **One comment more in the braces of a use item**: the list it stands in may lie anywhere below
the node. -/
inductive InsertsInUse : Node → Node → Prop
  | here {n comment : Node} {before after : List Node} (hk : n.kind = "use_list")
      (split : n.children = before ++ after) (hc : comment.isComment = true) :
      InsertsInUse n (n.withChildren (before ++ comment :: after))
  | deeper {n c c' : Node} {before after : List Node} (split : n.children = before ++ c :: after)
      (h : InsertsInUse c c') : InsertsInUse n (n.withChildren (before ++ c' :: after))

/-- **One comment or attribute more in a block**: among its items, in a use item, or in the body of
an inline module. -/
inductive Inserts : Node → Node → Prop
  | here {n padding : Node} {before after : List Node} (split : n.children = before ++ after)
      (hp : padding.IsPadding) : Inserts n (n.withChildren (before ++ padding :: after))
  | inUse {n item item' : Node} {before after : List Node}
      (split : n.children = before ++ item :: after) (hk : item.kind = "use_declaration")
      (h : InsertsInUse item item') : Inserts n (n.withChildren (before ++ item' :: after))
  | inBody {n item body body' : Node} {before after front back : List Node}
      (split : n.children = before ++ item :: after) (hk : item.kind = "mod_item")
      (inner : item.children = front ++ body :: back) (filed : body.field = some "body")
      (h : Inserts body body') :
      Inserts n (n.withChildren
        (before ++ item.withChildren (front ++ body' :: back) :: after))

/-! ## Replacing a node below -/

variable {n c c' : Node} {before after : List Node}

theorem find?_replace {β : Type} {p : Node → Bool} {f : Node → β} (hp : p c' = p c)
    (hf : f c' = f c) :
    ((before ++ c' :: after).find? p).map f = ((before ++ c :: after).find? p).map f := by
  rw [List.find?_append, List.find?_append, List.find?_cons, List.find?_cons, hp]
  cases before.find? p with
  | some found => rfl
  | none => cases p c <;> simp [hf]

/-- What is found under a field is the same up to what changes in the replaced node. -/
theorem child?_replace {β : Type} {f : Node → β} (hs : n.children = before ++ c :: after)
    (hfield : c'.field = c.field) (hf : f c' = f c) (field : String) :
    ((n.withChildren (before ++ c' :: after)).child? field).map f = (n.child? field).map f := by
  rw [child?, child?, hs]
  exact find?_replace (by rw [hfield]) hf

theorem child?_bind_replace {β : Type} {f : Node → Option β}
    (hs : n.children = before ++ c :: after) (hfield : c'.field = c.field) (hf : f c' = f c)
    (field : String) :
    ((n.withChildren (before ++ c' :: after)).child? field).bind f = (n.child? field).bind f := by
  have h := congrArg (Option.bind · id) (child?_replace hs hfield hf field)
  simpa only [Option.bind_map, Function.id_comp] using h

theorem filterMap_replace {β : Type} {f : Node → Option β} (hs : n.children = before ++ c :: after)
    (hnamed : c'.named = c.named) (hf : f c' = f c) :
    (n.withChildren (before ++ c' :: after)).namedChildren.filterMap f
      = n.namedChildren.filterMap f := by
  simp only [namedChildren, withChildren, hs, List.filter_append, List.filter_cons, hnamed]
  cases c.named <;> simp [List.filterMap_cons, hf]

/-! ## Use items -/

namespace InsertsInUse

variable {n n' : Node}

theorem kind_eq (h : InsertsInUse n n') : n'.kind = n.kind := by cases h <;> rfl

theorem named_eq (h : InsertsInUse n n') : n'.named = n.named := by cases h <;> rfl

theorem field_eq (h : InsertsInUse n n') : n'.field = n.field := by cases h <;> rfl

theorem identifierName_eq (h : InsertsInUse n n') : n'.identifierName = n.identifierName := by
  cases h <;> rfl

theorem isSegment_eq (h : InsertsInUse n n') : n'.isSegment = n.isSegment := by cases h <;> rfl

/-- The segments of a path have nothing to do with comments. -/
theorem segments_eq (h : InsertsInUse n n') : n'.segments = n.segments := by
  induction h with
  | @here n comment before after hk split hc =>
    have hname : n.isSegment = false := by simp [isSegment, hk]
    have hscoped : n.kind ≠ "scoped_identifier" := by simp [hk]
    rw [segments_of_other hname hscoped]
    exact segments_of_other hname hscoped
  | @deeper n c c' before after split h ih =>
    by_cases hname : n.isSegment = true
    · rw [segments_of_name hname]
      exact segments_of_name hname
    · by_cases hscoped : n.kind = "scoped_identifier"
      · have hscoped' : (n.withChildren (before ++ c' :: after)).kind = "scoped_identifier" :=
          hscoped
        rw [segments_of_scoped hscoped, segments_of_scoped hscoped',
          child?_replace split h.field_eq h.identifierName_eq,
          child?_replace split h.field_eq ih]
      · rw [Bool.not_eq_true] at hname
        rw [segments_of_other hname hscoped]
        exact segments_of_other hname hscoped

theorem starPath?_replace {c c' : Node} {before after : List Node}
    (split : n.children = before ++ c :: after) (h : InsertsInUse c c') :
    (n.withChildren (before ++ c' :: after)).starPath?.map segments = n.starPath?.map segments := by
  simp only [starPath?, namedChildren, withChildren, split, List.filter_append, List.filter_cons,
    h.named_eq]
  cases c.named with
  | false => rfl
  | true => exact find?_replace (by rw [h.isSegment_eq, h.kind_eq]) h.segments_eq

/-- The tree of a use clause has nothing to do with comments. -/
theorem useTree?_eq (h : InsertsInUse n n') : n'.useTree? = n.useTree? := by
  induction h with
  | @here n comment before after hk split hc =>
    have hk' : (n.withChildren (before ++ comment :: after)).kind = "use_list" := hk
    rw [useTree?_of_group hk, useTree?_of_group hk']
    simp only [namedChildren, withChildren, split, List.filter_append, List.filter_cons]
    cases comment.named <;> simp [hc]
  | @deeper n c c' before after split h ih =>
    by_cases hk : n.kind ∈ clauseKinds
    · simp only [clauseKinds, List.mem_cons, List.not_mem_nil, or_false] at hk
      rcases hk with hk | hk | hk | hk
      · have hk' : (n.withChildren (before ++ c' :: after)).kind = "use_as_clause" := hk
        rw [useTree?_of_rename hk, useTree?_of_rename hk',
          child?_replace split h.field_eq h.segments_eq,
          child?_replace split h.field_eq h.identifierName_eq]
      · have hk' : (n.withChildren (before ++ c' :: after)).kind = "use_list" := hk
        rw [useTree?_of_group hk, useTree?_of_group hk',
          filterMap_replace split h.named_eq (by rw [isComment, h.kind_eq, ih, isComment])]
      · have hk' : (n.withChildren (before ++ c' :: after)).kind = "scoped_use_list" := hk
        rw [useTree?_of_below hk, useTree?_of_below hk', child?_bind_replace split h.field_eq ih,
          child?_replace split h.field_eq h.segments_eq]
      · have hk' : (n.withChildren (before ++ c' :: after)).kind = "use_wildcard" := hk
        have hglob : (n.withChildren (before ++ c' :: after)).globPath = n.globPath := by
          rw [globPath_eq, globPath_eq, starPath?_replace split h]
          rfl
        rw [useTree?_of_glob hk, useTree?_of_glob hk', hglob]
    · rw [useTree?_of_path hk]
      have hsegments := (InsertsInUse.deeper split h).segments_eq
      rw [← hsegments]
      exact useTree?_of_path hk

/-- The tree of a use item has nothing to do with comments. -/
theorem itemTree?_eq (h : InsertsInUse n n') : n'.itemTree? = n.itemTree? := by
  cases h with
  | here hk split hc => simp [itemTree?, withChildren, hk]
  | deeper split h =>
    rw [itemTree?, itemTree?, child?_bind_replace split h.field_eq h.useTree?_eq]
    rfl

end InsertsInUse

theorem Inserts.field_eq {n n' : Node} (h : n.Inserts n') : n'.field = n.field := by cases h <;> rfl

theorem Inserts.identifierName_eq {n n' : Node} (h : n.Inserts n') :
    n'.identifierName = n.identifierName := by
  cases h <;> rfl

/-! ## The search for a path attribute -/

/-- Padding is passed over. -/
theorem overrideBefore?_padding {padding : Node} (hp : padding.IsPadding) (near far : List Node) :
    overrideBefore? (near ++ padding :: far) = overrideBefore? (near ++ far) := by
  induction near with
  | nil =>
    rw [List.nil_append, List.nil_append, overrideBefore?]
    rcases hp with hcomment | ⟨hattr, hpath⟩
    · have hattr : padding.kind ≠ "attribute_item" := by
        rintro h
        simp [isComment, h] at hcomment
      rw [if_neg hattr, if_pos hcomment]
    · rw [if_pos hattr, overrideIn?_eq_none_iff.2 hpath]
      rfl
  | cons n near ih => rw [List.cons_append, List.cons_append, overrideBefore?, ih, overrideBefore?]

/-- A node that is no attribute counts by its kind alone. -/
theorem overrideBefore?_replace (hkind : c'.kind = c.kind) (hattr : c.kind ≠ "attribute_item")
    (near far : List Node) :
    overrideBefore? (near ++ c' :: far) = overrideBefore? (near ++ c :: far) := by
  induction near with
  | nil =>
    rw [List.nil_append, List.nil_append, overrideBefore?, overrideBefore?, isComment, isComment,
      hkind, if_neg hattr, if_neg hattr]
  | cons n near ih => rw [List.cons_append, List.cons_append, overrideBefore?, ih, overrideBefore?]

/-- `Files nodes file`: going through the nodes before an item, the nearest first, the file is that
of the first attribute item that carries a path, and there is only padding in front of it. -/
def Files (nodes : List Node) (file : String) : Prop :=
  ∃ near attr far, nodes = near ++ attr :: far ∧ (∀ n ∈ near, n.IsPadding) ∧
    attr.kind = "attribute_item" ∧ attr.overrideIn? = some file

theorem files_cons {n : Node} {nodes : List Node} {file : String} :
    Files (n :: nodes) file ↔
      n.kind = "attribute_item" ∧ n.overrideIn? = some file ∨ n.IsPadding ∧ Files nodes file := by
  constructor
  · rintro ⟨near, attr, far, hnodes, hnear, hattr⟩
    cases near with
    | nil =>
      obtain ⟨rfl, -⟩ : n = attr ∧ nodes = far := by simpa using hnodes
      exact .inl hattr
    | cons m near =>
      obtain ⟨rfl, rfl⟩ : n = m ∧ nodes = near ++ attr :: far := by simpa using hnodes
      rw [List.forall_mem_cons] at hnear
      exact .inr ⟨hnear.1, near, attr, far, rfl, hnear.2, hattr⟩
  · rintro (hattr | ⟨hn, near, attr, far, rfl, hnear, hattr⟩)
    · exact ⟨[], n, nodes, rfl, by simp, hattr⟩
    · exact ⟨n :: near, attr, far, rfl, List.forall_mem_cons.2 ⟨hn, hnear⟩, hattr⟩

/-- **The search for a path attribute** finds the file that the nodes before an item give. -/
theorem overrideBefore?_eq_some_iff {nodes : List Node} {file : String} :
    overrideBefore? nodes = some file ↔ Files nodes file := by
  induction nodes with
  | nil => simp [overrideBefore?, Files]
  | cons n nodes ih =>
    rw [overrideBefore?, files_cons, ← ih]
    by_cases hattr : n.kind = "attribute_item"
    · have hpadding : n.IsPadding ↔ n.overrideIn? = none := by
        simp [IsPadding, isComment, hattr, overrideIn?_eq_none_iff]
      rw [if_pos hattr, hpadding]
      cases n.overrideIn? <;> simp [hattr]
    · have hpadding : n.IsPadding ↔ n.isComment = true := by simp [IsPadding, hattr]
      rw [if_neg hattr, hpadding]
      cases n.isComment <;> simp [hattr]

end Node

/-! ## Blocks -/

theorem withBefore_append {α : Type} (before xs ys : List α) :
    withBefore before (xs ++ ys)
      = withBefore before xs ++ withBefore (xs.reverse ++ before) ys := by
  induction xs generalizing before with
  | nil => rfl
  | cons x xs ih => simp [withBefore, ih]

/-- The module that an item declares, given the nodes before it. -/
def Node.declaration? (before : List Node) (item : Node) : Option Declaration :=
  if item.kind = "mod_item" then
    ((item.child? "name").map identifierName).map fun name =>
      .mk name (overrideBefore? before) ((item.child? "body").map Block.ofNode)
  else none

namespace Block

/-- The block of a list of items. -/
def ofItems (items : List Node) : Block :=
  .mk ((withBefore [] items).filterMap fun p => p.2.declaration? p.1)
    (items.filterMap Node.itemTree?)

theorem ofNode_eq (n : Node) : ofNode n = ofItems n.namedChildren := by
  rw [ofNode, ofItems, List.filterMap_subtype (g := fun p => p.2.declaration? p.1),
    List.unattach_attach]
  rintro ⟨before, item⟩ h
  dsimp only
  rw [Node.declaration?, Option.map_map]
  split
  · congr 1
    funext name
    simp only [Function.comp_apply]
    congr 1
    split <;> simp_all
  · rfl

/-- The items after some nodes depend on these nodes only as far as the search for a path attribute
looks at them. -/
theorem filterMap_withBefore_congr {far far' : List Node}
    (h : ∀ near, Node.overrideBefore? (near ++ far') = Node.overrideBefore? (near ++ far))
    (items : List Node) :
    (withBefore far' items).filterMap (fun p => p.2.declaration? p.1)
      = (withBefore far items).filterMap fun p => p.2.declaration? p.1 := by
  induction items generalizing far far' with
  | nil => rfl
  | cons item items ih =>
    have hitem : item.declaration? far' = item.declaration? far := by
      have hfar := h []
      simp only [List.nil_append] at hfar
      rw [Node.declaration?, Node.declaration?, hfar]
    have hrest := @ih (item :: far) (item :: far') fun near => by simpa using h (near ++ [item])
    rw [withBefore, withBefore, List.filterMap_cons, List.filterMap_cons, hitem, hrest]

/-- Padding between items is not seen. -/
theorem ofItems_padding {padding : Node} (hp : padding.IsPadding) (before after : List Node) :
    ofItems (before ++ padding :: after) = ofItems (before ++ after) := by
  have hkind : padding.kind ≠ "mod_item" ∧ padding.kind ≠ "use_declaration" := by
    rcases hp with hcomment | ⟨hattr, -⟩
    · constructor <;> rintro h <;> simp [Node.isComment, h] at hcomment
    · simp [hattr]
  have hdeclaration : ∀ nodes, padding.declaration? nodes = none := fun nodes => if_neg hkind.1
  have huse : padding.itemTree? = none := if_neg hkind.2
  have hafter := filterMap_withBefore_congr
    (fun near => Node.overrideBefore?_padding hp near (before.reverse ++ [])) after
  simp only [ofItems, withBefore_append, withBefore, List.filterMap_append, List.filterMap_cons,
    hdeclaration, huse, hafter]

/-- An item may be replaced by one that declares and imports the same. -/
theorem ofNode_replace {n item item' : Node} {before after : List Node}
    (split : n.children = before ++ item :: after) (hnamed : item'.named = item.named)
    (hkind : item'.kind = item.kind) (hattr : item.kind ≠ "attribute_item")
    (hdeclaration : ∀ nodes, item'.declaration? nodes = item.declaration? nodes)
    (huse : item'.itemTree? = item.itemTree?) :
    ofNode (n.withChildren (before ++ item' :: after)) = ofNode n := by
  have hafter := filterMap_withBefore_congr
    (fun near => Node.overrideBefore?_replace hkind hattr near
      ((before.filter Node.named).reverse ++ [])) (after.filter Node.named)
  rw [ofNode_eq, ofNode_eq, Node.namedChildren_withChildren, Node.namedChildren, split]
  simp only [List.filter_append, List.filter_cons, hnamed]
  cases item.named with
  | false => rfl
  | true =>
    simp only [ite_true, ofItems, withBefore_append, withBefore, List.filterMap_append,
      List.filterMap_cons, hdeclaration, huse, hafter]

/-- **One more comment or attribute** does not change the block. -/
theorem ofNode_of_inserts {n n' : Node} (h : n.Inserts n') : ofNode n' = ofNode n := by
  induction h with
  | @here n padding before after split hp =>
    rw [ofNode_eq, ofNode_eq, Node.namedChildren_withChildren, Node.namedChildren, split]
    simp only [List.filter_append, List.filter_cons]
    cases padding.named with
    | false => rfl
    | true => exact ofItems_padding hp _ _
  | @inUse n item item' before after split hk h =>
    have hdeclaration : ∀ nodes, item'.declaration? nodes = item.declaration? nodes := by
      intro nodes
      rw [Node.declaration?, Node.declaration?, h.kind_eq, hk]
      rfl
    exact ofNode_replace split h.named_eq h.kind_eq (by simp [hk]) hdeclaration h.itemTree?_eq
  | @inBody n item body body' before after front back split hk inner filed h ih =>
    have hkind : (item.withChildren (front ++ body' :: back)).kind = item.kind := rfl
    have hdeclaration : ∀ nodes, (item.withChildren (front ++ body' :: back)).declaration? nodes
        = item.declaration? nodes := by
      intro nodes
      rw [Node.declaration?, Node.declaration?, hkind,
        Node.child?_replace inner h.field_eq h.identifierName_eq,
        Node.child?_replace inner h.field_eq ih]
    have huse : (item.withChildren (front ++ body' :: back)).itemTree? = item.itemTree? := by
      rw [Node.itemTree?, Node.itemTree?, hkind, hk]
      rfl
    exact ofNode_replace split rfl hkind (by simp [hk]) hdeclaration huse

/-- Every `mod` item with a name is found in the block, with the file that the nodes before it
give. -/
theorem exists_declaration {n item name : Node} {before after : List Node}
    (hn : n.namedChildren = before ++ item :: after) (hitem : item.kind = "mod_item")
    (hname : item.child? "name" = some name) :
    ∃ d ∈ (ofNode n).declarations, d.name = name.identifierName ∧
      (∀ file, d.override = some file ↔ Node.Files before.reverse file) ∧
      d.isInline = (item.child? "body").isSome := by
  refine ⟨.mk name.identifierName (Node.overrideBefore? before.reverse)
    ((item.child? "body").map ofNode), ?_, rfl,
    fun file => Node.overrideBefore?_eq_some_iff, Option.isSome_map⟩
  rw [ofNode_eq, ofItems, declarations, hn, withBefore_append, withBefore, List.mem_filterMap]
  refine ⟨(before.reverse ++ [], item), by simp, ?_⟩
  rw [Node.declaration?, if_pos hitem, hname, List.append_nil]
  rfl

/-- **Comments and attributes that carry no path do not change what is read.**  However many are
inserted, and wherever they may stand, the block is the same: the same modules with the same files
and bodies, and the same use trees.  In particular all modules are found as they are declared
without the insertions. -/
theorem block_unaffected_by_padding {n n' : Node} (h : Relation.ReflTransGen Node.Inserts n n') :
    ofNode n' = ofNode n ∧
      ∀ (item name : Node) (before after : List Node),
        n.namedChildren = before ++ item :: after → item.kind = "mod_item" →
        item.child? "name" = some name →
        ∃ d ∈ (ofNode n').declarations, d.name = name.identifierName ∧
          (∀ file, d.override = some file ↔ Node.Files before.reverse file) ∧
          d.isInline = (item.child? "body").isSome := by
  have hblock : ofNode n' = ofNode n := by
    induction h with
    | refl => rfl
    | tail _ hstep ih => exact (ofNode_of_inserts hstep).trans ih
  refine ⟨hblock, fun item name before after hn hitem hname => ?_⟩
  rw [hblock]
  exact exists_declaration hn hitem hname

namespace Sample

open Build.Sample Node

/-- A comment. -/
def comment : Node := node "line_comment" "// b" 0 none []

/-- The item `use {b};` with some nodes after the name in its braces. -/
def item (inside : List Node) : Node :=
  node "use_declaration" "use \x7bb\x7d;" 0 none [
    mark "use" 0,
    node "use_list" "\x7bb\x7d" 4 (some "argument")
      (mark "\x7b" 4 :: node "identifier" "b" 5 none [] :: (inside ++ [mark "\x7d" 6])),
    mark ";" 7]

/-- The module `a` with this item in its body. -/
def inline (inside : List Node) : Node :=
  node "mod_item" "mod a\x7buse \x7bb\x7d;\x7d" 0 none [
    mark "mod" 0,
    node "identifier" "a" 4 (some "name") [],
    node "declaration_list" "\x7buse \x7bb\x7d;\x7d" 5 (some "body")
      [mark "\x7b" 5, item inside, mark "\x7d" 14]]

/-- The attribute `#[path="c"]`. -/
def pathAttribute : Node :=
  node "attribute_item" "#[path=\"c\"]" 0 none [
    mark "#" 0,
    mark "[" 1,
    node "attribute" "path=\"c\"" 2 none [
      node "identifier" "path" 2 none [],
      mark "=" 6,
      node "string_literal" "\"c\"" 7 (some "value") []],
    mark "]" 10]

/-- The module with this attribute, and some nodes in between. -/
def root (between inside : List Node) : Node :=
  node "source_file" "" 0 none (pathAttribute :: (between ++ [inline inside]))

/-- A comment in the braces and one after the attribute. -/
theorem inserts_root : Relation.ReflTransGen Inserts (root [] []) (root [comment] [comment]) := by
  have huse : InsertsInUse (item []) (item [comment]) :=
    @InsertsInUse.deeper _ _ _ [_] _ rfl (@InsertsInUse.here _ _ [_, _] _ rfl rfl rfl)
  have hinline : Inserts (root [] []) (root [] [comment]) :=
    @Inserts.inBody _ (inline []) _ _ [_] _ [_, _] _ rfl rfl rfl rfl
      (@Inserts.inUse _ _ _ [_] _ rfl rfl huse)
  have hgap : Inserts (root [] [comment]) (root [comment] [comment]) :=
    @Inserts.here _ _ [_] _ rfl (.inl rfl)
  exact .tail (.single hinline) hgap

end Sample

/-- With a comment after its attribute and another one in its `use` item, the module `a` is read
with its file and its name `b`. -/
theorem path_found_past_comment :
    Relation.ReflTransGen Node.Inserts (Sample.root [] [])
        (Sample.root [Sample.comment] [Sample.comment]) ∧
      ofNode (Sample.root [Sample.comment] [Sample.comment])
        = .mk [.mk "a" (some "c") (some (.mk [] [.group [.name "b"]]))] [] := by
  have hblock : ofNode (Sample.root [] [])
      = .mk [.mk "a" (some "c") (some (.mk [] [.group [.name "b"]]))] [] := by cbv
  refine ⟨Sample.inserts_root, ?_⟩
  rw [(block_unaffected_by_padding Sample.inserts_root).1, hblock]

end Block

end CrateAtlas
