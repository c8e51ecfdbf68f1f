/-!
# Paths of files

A path is a list of components after an *anchor*: nothing for a path relative to the working
directory, one slash, or exactly two.  Reading a path drops empty components and single dots; double
dots stay, because what they mean depends on the links on the way.

Joining a path to an absolute one gives the latter.
-/

set_option autoImplicit false

namespace CrateAtlas

/-- Where a path starts. -/
inductive Anchor where
  | here
  | top
  /-- Two slashes, which are kept as they are. -/
  | doubled
deriving DecidableEq, Repr, Inhabited

/-- The slashes of an anchor. -/
def Anchor.text : Anchor → String
  | .here => ""
  | .top => "/"
  | .doubled => "//"

/-- The path of a file or directory. -/
structure Path where
  anchor : Anchor
  parts : List String
deriving DecidableEq, Repr, Inhabited

namespace Path

/-- Cuts a text at every slash; `part` holds the current piece backwards. -/
def cut (part : List Char) : List Char → List (List Char)
  | [] => [part.reverse]
  | c :: cs => if c = '/' then part.reverse :: cut [] cs else cut (c :: part) cs

/-- The components of a text, without empty ones. -/
def components (text : String) : List String :=
  ((cut [] text.toList).filter fun p => !p.isEmpty).map String.ofList

/-- The anchor of a text. -/
def anchorOf (text : String) : Anchor :=
  match (text.toList.takeWhile (· = '/')).length with
  | 0 => .here
  | 2 => .doubled
  | _ => .top

/-- Reads a path. -/
def parse (text : String) : Path :=
  ⟨anchorOf text, (components text).filter (· ≠ ".")⟩

/-- The written form of a path; the path without any component is a single dot. -/
def render (p : Path) : String :=
  match p.anchor, p.parts with
  | .here, [] => "."
  | anchor, parts => anchor.text ++ "/".intercalate parts

/-- Whether a component holds the null character.  No file system has such a name, and to look one
up is an error. -/
def hasNull (p : Path) : Bool := p.parts.any fun part => part.toList.contains (Char.ofNat 0)

/-- Whether a path does not start at the working directory. -/
def isAbsolute (p : Path) : Bool := p.anchor ≠ .here

/-- The second path as seen from the first. -/
def append (p q : Path) : Path :=
  if q.isAbsolute then q else ⟨p.anchor, p.parts ++ q.parts⟩

/-- The path read from a text, as seen from the given one. -/
def join (p : Path) (text : String) : Path := p.append (parse text)

/-- The path without its last component. -/
def parent (p : Path) : Path := ⟨p.anchor, p.parts.dropLast⟩

/-- The last component. -/
def name (p : Path) : String := p.parts.getLast?.getD ""

/-- Cuts a name before its last dot, if there are characters on both sides of that dot. -/
def cutName (name : String) : List Char × List Char :=
  let back := name.toList.reverse
  let ending := back.takeWhile (· ≠ '.')
  let rest := back.dropWhile (· ≠ '.')
  if ending.isEmpty || rest.length < 2 then (name.toList, [])
  else ((rest.drop 1).reverse, '.' :: ending.reverse)

/-- The last component without its ending. -/
def stem (p : Path) : String := String.ofList (cutName p.name).1

/-- The ending of the last component, with its dot. -/
def suffix (p : Path) : String := String.ofList (cutName p.name).2

/-- The order of lists of components. -/
def partsBefore : List String → List String → Bool
  | [], [] => false
  | [], _ :: _ => true
  | _ :: _, [] => false
  | a :: as, b :: bs => if a = b then partsBefore as bs else a < b

/-- The components of a path for comparison; an anchor counts as the first one. -/
def orderKey (p : Path) : List String :=
  match p.anchor with
  | .here => p.parts
  | anchor => anchor.text :: p.parts

/-- The order of paths: component by component. -/
def before (p q : Path) : Bool := partsBefore p.orderKey q.orderKey

/-- Paths in order. -/
def sort (paths : List Path) : List Path := paths.mergeSort fun p q => !q.before p

/-- The path relative to another one that it lies at or below. -/
def relativeTo? (p base : Path) : Option Path :=
  if p.anchor = base.anchor ∧ base.parts.isPrefixOf p.parts then
    some ⟨.here, p.parts.drop base.parts.length⟩
  else none

end Path

end CrateAtlas
