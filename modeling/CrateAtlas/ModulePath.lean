/-!
# Module paths

A module path says where a module lies inside one crate: the names of the modules from the root of
the crate down to it.  The root itself has no segments and is written `crate`; any other path is
written as its segments with `::` between them, without the root's name in front.

Paths are *ordered* by their written form, so two different paths with the same written form are
neither before nor after each other.
-/

set_option autoImplicit false

namespace CrateAtlas

/-- The place of a module inside its crate. -/
structure ModulePath where
  segments : List String
deriving DecidableEq, Repr, Inhabited

namespace ModulePath

/-- The root of the crate. -/
def root : ModulePath := ⟨[]⟩

/-- How the root of the crate is written. -/
def rootName : String := "crate"

/-- Cuts a text at every `::`, from left to right; `segment` holds the current piece backwards. -/
def cut (segment : List Char) : List Char → List (List Char)
  | [] => [segment.reverse]
  | ':' :: ':' :: cs => segment.reverse :: cut [] cs
  | c :: cs => cut (c :: segment) cs

/-- The pieces of a text between its `::`. -/
def pieces (text : String) : List String := (cut [] text.toList).map String.ofList

/-- Reads a written path.  The empty text is the root, and a leading `crate` is dropped. -/
def parse (text : String) : ModulePath :=
  if text = "" ∨ text = rootName then root
  else
    match pieces text with
    | first :: rest => if first = rootName then ⟨rest⟩ else ⟨first :: rest⟩
    | [] => root

/-- Whether a path is the root of the crate. -/
def isRoot (p : ModulePath) : Bool := p.segments.isEmpty

/-- The last segment; the root is called `crate`. -/
def name (p : ModulePath) : String := p.segments.getLast?.getD rootName

/-- The path of a module declared in this one. -/
def child (p : ModulePath) (name : String) : ModulePath := ⟨p.segments ++ [name]⟩

/-- The path of the enclosing module; the root has none. -/
def parent? (p : ModulePath) : Option ModulePath :=
  if p.isRoot then none else some ⟨p.segments.dropLast⟩

/-- Whether a path is another one or lies below it. -/
def isWithin (p q : ModulePath) : Bool := q.segments.isPrefixOf p.segments

/-- Whether a module is called `tests`. -/
def isTests (p : ModulePath) : Bool := p.segments.getLast? = some "tests"

/-- The written form of a path. -/
def render (p : ModulePath) : String :=
  match p.segments with
  | [] => rootName
  | segments => "::".intercalate segments

/-- The order of paths: that of their written forms. -/
def before (p q : ModulePath) : Bool := p.render < q.render

/-- Paths in order; those with the same written form stay as they were. -/
def sort (paths : List ModulePath) : List ModulePath :=
  paths.mergeSort fun p q => !q.before p

end ModulePath

end CrateAtlas
