import CrateAtlas.Syntax.Node
import CrateAtlas.UseTree

/-!
# Items of a block

What the analysis needs to know about a source file, or about the body of an inline module, is its
*block*: the modules it declares and the `use` items it holds, each in the order of the text.  Only
the direct items count; the body of an inline module is a block of its own.

`Block.ofNode` reads the block off a syntax tree.

* **Declarations.**  A `mod` item gives the name of a module, and a body if it has one.  A `path`
  attribute before the item says which file holds the module.  Only attributes and comments may
  stand between that attribute and the item.
* **Use items.**  The clause becomes a `UseTree`.  A path that leads through a type names no module,
  and such a clause is left out.
-/

set_option autoImplicit false

namespace CrateAtlas

mutual

/-- The items of a source file or of the body of an inline module. -/
inductive Block where
  | mk (declarations : List Declaration) (uses : List UseTree)

/-- The declaration of a module.  The body is there for an inline module, and the module lies in a
file of its own otherwise. -/
inductive Declaration where
  | mk (name : String) (override : Option String) (body : Option Block)

end

namespace Block

/-- The modules that a block declares. -/
def declarations : Block → List Declaration
  | .mk declarations _ => declarations

/-- The `use` items of a block. -/
def uses : Block → List UseTree
  | .mk _ uses => uses

instance : Inhabited Block := ⟨.mk [] []⟩

end Block

namespace Declaration

/-- The name of the declared module. -/
def name : Declaration → String
  | .mk name _ _ => name

/-- The file that a `path` attribute names. -/
def override : Declaration → Option String
  | .mk _ override _ => override

/-- The body of an inline module. -/
def body : Declaration → Option Block
  | .mk _ _ body => body

/-- Whether the module is inline. -/
def isInline (d : Declaration) : Bool := d.body.isSome

end Declaration

mutual

/-- How deeply inline modules are nested in a block. -/
def Block.depth : Block → Nat
  | .mk declarations _ => Declaration.depths declarations

/-- One more than the depth of the deepest body among the declarations; zero if none has a body. -/
def Declaration.depths : List Declaration → Nat
  | [] => 0
  | .mk _ _ (some body) :: rest => max (Block.depth body + 1) (Declaration.depths rest)
  | .mk _ _ none :: rest => Declaration.depths rest

end

theorem Declaration.depth_lt_depths {d : Declaration} {ds : List Declaration} {body : Block}
    (mem : d ∈ ds) (h : d.body = some body) : body.depth < Declaration.depths ds := by
  induction ds with
  | nil => simp at mem
  | cons e es ih =>
    rcases List.mem_cons.1 mem with rfl | mem
    · cases d with
      | mk name override b =>
        simp only [Declaration.body] at h
        subst h
        simp only [Declaration.depths]
        omega
    · have := ih mem
      cases e with
      | mk name override b => cases b <;> simp only [Declaration.depths] <;> omega

/-- The body of a declared module is nested less deeply than the block that declares it. -/
theorem Block.depth_lt {block : Block} {d : Declaration} {body : Block}
    (mem : d ∈ block.declarations) (h : d.body = some body) : body.depth < block.depth := by
  cases block with
  | mk declarations uses => exact Declaration.depth_lt_depths mem h

/-! ## Names and string literals -/

/-- The segment that stands for a leading `::`, which leads out of the crate. -/
def externMarker : String := "::"

/-- A name without the mark of a raw identifier. -/
def plainName (text : String) : String :=
  match text.toList with
  | 'r' :: '#' :: cs => String.ofList cs
  | _ => text

/-- Drops the first and the last character. -/
def dropEnds (cs : List Char) : List Char := (cs.drop 1).dropLast

/-- Takes the backslash off every quote that follows one. -/
def unescapeQuotes : List Char → List Char
  | [] => []
  | '\\' :: '"' :: cs => '"' :: unescapeQuotes cs
  | c :: cs => c :: unescapeQuotes cs

/-- Turns every pair of backslashes into one. -/
def unescapeBackslashes : List Char → List Char
  | [] => []
  | '\\' :: '\\' :: cs => '\\' :: unescapeBackslashes cs
  | c :: cs => c :: unescapeBackslashes cs

/-- Drops the hash signs at both ends. -/
def dropHashes (cs : List Char) : List Char :=
  ((cs.dropWhile (· = '#')).reverse.dropWhile (· = '#')).reverse

/-- The value of a raw string literal: what stands between its quotes. -/
def rawStringValue (text : String) : String :=
  String.ofList (dropEnds (dropHashes (text.toList.drop 1)))

/-- The value of an ordinary string literal.  First the escaped quotes are resolved, then the
escaped backslashes; no other escape is. -/
def stringValue (text : String) : String :=
  String.ofList (unescapeBackslashes (unescapeQuotes (dropEnds text.toList)))

namespace Node

/-- The value of a string literal of either form. -/
def literalValue (n : Node) : String :=
  if n.kind = "raw_string_literal" then rawStringValue n.contents else stringValue n.contents

/-- The name that an identifier spells. -/
def identifierName (n : Node) : String := plainName n.contents

/-! ## The path attribute -/

/-- The value of a `path = "..."` attribute. -/
def pathValue? (attr : Node) : Option String :=
  if attr.kind ≠ "attribute" then none
  else
    match attr.namedChildren with
    | name :: _ =>
      if name.kind = "identifier" ∧ name.contents = "path" then
        match attr.child? "value" with
        | some value =>
          if value.kind = "string_literal" ∨ value.kind = "raw_string_literal" then
            some value.literalValue
          else none
        | none => none
      else none
    | [] => none

/-- The file named by an attribute item, if it holds a `path` attribute. -/
def overrideIn? (item : Node) : Option String := item.namedChildren.findSome? pathValue?

/-- The file named by the attributes before an item.  The list holds the named siblings before the
item, the nearest first; anything but attributes and comments ends the search. -/
def overrideBefore? : List Node → Option String
  | [] => none
  | n :: before =>
    if n.kind = "attribute_item" then n.overrideIn?.orElse fun _ => overrideBefore? before
    else if n.isComment then overrideBefore? before
    else none

/-! ## Use clauses -/

/-- Whether a node stands for a single path segment. -/
def isSegment (n : Node) : Bool :=
  n.kind = "identifier" || n.kind = "crate" || n.kind = "self" || n.kind = "super" ||
    n.kind = "metavariable"

theorem sizeOf_lt_of_mem_children {n c : Node} (h : c ∈ n.children) : sizeOf c < sizeOf n := by
  cases n with
  | mk kind text named missing broken start field children =>
    have := List.sizeOf_lt_of_mem (show c ∈ children from h)
    simp only [mk.sizeOf_spec]
    omega

theorem sizeOf_child?_lt {n c : Node} {field : String} (h : n.child? field = some c) :
    sizeOf c < sizeOf n :=
  sizeOf_lt_of_mem_children (List.mem_of_find?_eq_some h)

/-- The segments of a path.  A path through a type has none. -/
def segments (n : Node) : List String :=
  if n.isSegment then [n.identifierName]
  else if n.kind = "scoped_identifier" then
    match n.child? "name" with
    | none => []
    | some name =>
      match _h : n.child? "path" with
      | none => [externMarker, name.identifierName]
      | some path =>
        match segments path with
        | [] => []
        | first :: rest => first :: rest ++ [name.identifierName]
  else []
termination_by sizeOf n
decreasing_by exact sizeOf_child?_lt _h

/-- The last segment of a path as a leaf, below the others; a path without segments gives no
tree. -/
def leafOf (segments : List String) (leaf : String → UseTree) : Option UseTree :=
  segments.getLast?.map fun last => UseTree.wrap segments.dropLast (leaf last)

/-- The path before the star of a glob. -/
def globPath (n : Node) : List String :=
  let path := match n.namedChildren.find? fun c => c.isSegment || c.kind = "scoped_identifier" with
    | some c => c.segments
    | none => []
  if path.isEmpty && "::".toList.isPrefixOf n.contents.toList then [externMarker] else path

theorem sizeOf_namedChildren_lt {n c : Node} (h : c ∈ n.namedChildren) :
    sizeOf c < sizeOf n :=
  sizeOf_lt_of_mem_children (List.mem_filter.1 h).1

/-- The tree of a use clause. -/
def useTree? (n : Node) : Option UseTree :=
  if n.kind = "use_as_clause" then
    let path := ((n.child? "path").map segments).getD []
    let newName := ((n.child? "alias").map identifierName).getD "_"
    leafOf path fun last => .rename last newName
  else if n.kind = "use_list" then
    some (.group (n.namedChildren.attach.filterMap fun ⟨c, _⟩ =>
      if c.isComment then none else useTree? c))
  else if n.kind = "scoped_use_list" then
    match _h : n.child? "list" with
    | none => none
    | some list =>
      let path := ((n.child? "path").map segments).getD [externMarker]
      (useTree? list).map (UseTree.wrap path)
  else if n.kind = "use_wildcard" then some (UseTree.wrap n.globPath .glob)
  else leafOf n.segments .name
termination_by sizeOf n
decreasing_by
  · exact sizeOf_namedChildren_lt (by assumption)
  · exact sizeOf_child?_lt _h

/-- The tree of a `use` item. -/
def itemTree? (n : Node) : Option UseTree :=
  if n.kind = "use_declaration" then (n.child? "argument").bind useTree? else none

end Node

/-! ## Blocks -/

/-- Pairs every element of a list with those before it, the nearest first. -/
def withBefore {α : Type} (before : List α) : List α → List (List α × α)
  | [] => []
  | a :: rest => (before, a) :: withBefore (a :: before) rest

theorem mem_of_mem_withBefore {α : Type} {before xs : List α} {p : List α × α}
    (h : p ∈ withBefore before xs) : p.2 ∈ xs := by
  induction xs generalizing before with
  | nil => simp [withBefore] at h
  | cons a rest ih =>
    simp only [withBefore, List.mem_cons] at h
    rcases h with rfl | h
    · simp
    · exact List.mem_cons_of_mem _ (ih h)

/-- The block of a source file or of the body of an inline module. -/
def Block.ofNode (n : Node) : Block :=
  .mk
    ((withBefore [] n.namedChildren).attach.filterMap fun ⟨(before, item), _h⟩ =>
      if item.kind = "mod_item" then
        (item.child? "name").map fun name =>
          .mk name.identifierName (Node.overrideBefore? before)
            (match _hb : item.child? "body" with
            | none => none
            | some body => some (Block.ofNode body))
      else none)
    (n.namedChildren.filterMap Node.itemTree?)
termination_by sizeOf n
decreasing_by
  have h1 := Node.sizeOf_child?_lt _hb
  have h2 := Node.sizeOf_namedChildren_lt (mem_of_mem_withBefore _h)
  simp only at h2
  omega

end CrateAtlas
