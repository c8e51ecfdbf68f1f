import CrateAtlas.FileTree.Links
import CrateAtlas.Text.Wildcard

/-!
# Searching a file tree by pattern

`FileTree.search` lists the paths below a directory that match a pattern.  The components of the
pattern are matched one by one: a wildcard pattern against the names in a directory, two stars
against any number of directories, none included, and any other component against itself.  Two stars
do not go through links.

What the run may not look at is passed over, with what comes after it in the same directory.  Any
other obstacle breaks the search off, and what was found before it is kept.
-/

set_option autoImplicit false

namespace CrateAtlas

/-- Why a pattern is refused. -/
inductive PatternFault where
  /-- The pattern is absolute. -/
  | absolute
  /-- Two stars stand in a longer component. -/
  | doubleStar
deriving DecidableEq, Repr

/-- One component of a pattern. -/
inductive PatternPart where
  | name (text : String)
  | wildcard (pattern : String)
  /-- Any number of directories. -/
  | descend
  /-- Nothing more: the pattern ended in a slash. -/
  | stop
deriving DecidableEq, Repr

namespace PatternPart

/-- Whether two stars stand next to each other. -/
def hasDoubleStar : List Char → Bool
  | '*' :: '*' :: _ => true
  | _ :: cs => hasDoubleStar cs
  | [] => false

/-- Reads a component of a pattern. -/
def read (part : String) : Except PatternFault PatternPart :=
  if part = "**" then .ok .descend
  else if hasDoubleStar part.toList then .error .doubleStar
  else if Text.hasWildcard part then .ok (.wildcard part)
  else .ok (.name part)

/-- Reads a pattern. -/
def readAll (pattern : String) : Except PatternFault (List PatternPart) := do
  let path := Path.parse pattern
  if path.isAbsolute then throw .absolute
  let parts ← path.parts.mapM read
  return if pattern.toList.getLast? = some '/' then parts ++ [stop] else parts

end PatternPart

/-- What a search has found, and what has broken it off, if anything did. -/
structure Found where
  paths : List Path
  fault : Option (AccessFault × Path)

namespace Found

/-- Nothing is found. -/
def nothing : Found := ⟨[], none⟩

/-- Nothing is found because of an obstacle. -/
def stopped (fault : AccessFault) (p : Path) : Found := ⟨[], some (fault, p)⟩

/-- What two searches find, one after the other. -/
def append (a b : Found) : Found :=
  match a.fault with
  | some _ => a
  | none => ⟨a.paths ++ b.paths, b.fault⟩

/-- What the searches from all items of a list find, one after the other. -/
def collect {α : Type} (find : α → Found) (items : List α) : Found :=
  items.foldr (fun item others => (find item).append others) nothing

/-- Passes over what may not be looked at. -/
def lenient (found : Found) : Found :=
  match found.fault with
  | some (.denied, _) => ⟨found.paths, none⟩
  | _ => found

/-- Drops every repetition after the first. -/
def distinct (found : Found) : Found :=
  ⟨(found.paths.foldl (fun acc p => if acc.contains p then acc else p :: acc) []).reverse,
    found.fault⟩

end Found

namespace FileTree

/-- The path with one more component. -/
def below (p : Path) (name : String) : Path := ⟨p.anchor, p.parts ++ [name]⟩

/-- The names in the directory that a path leads to. -/
def list (t : FileTree) (p : Path) : Except AccessFault (List String) :=
  match t.locate p with
  | .error fault => .error fault
  | .ok l =>
    match t.entryAt? l with
    | none => .error .missing
    | some .directory => if t.denies l .read then .error .denied else .ok (t.names l)
    | some _ => .error .notDirectory

/-- Goes on with every name in a directory. -/
def forNames (t : FileTree) (p : Path) (find : String → Found) : Found :=
  match t.list p with
  | .error fault => .stopped fault p
  | .ok names => .collect find names

/-- Goes on if the answer to a question about a path is yes. -/
def ifFound (t : FileTree) (p : Path) (answer : Bool) (find : Found) : Found :=
  match t.obstacle? p with
  | some fault => .stopped fault p
  | none => if answer then find else .nothing

/-- The entry itself at a name in a directory, and not what it links to. -/
def entryIn? (t : FileTree) (p : Path) (name : String) : Option Entry :=
  match t.locate p with
  | .error _ => none
  | .ok l => t.entryAt? (l ++ [name])

/-- A directory and all directories below it, down to the given depth, without going through
links. -/
def directories (t : FileTree) : Nat → Path → Found
  | 0, p => ⟨[p], none⟩
  | depth + 1, p =>
    .append ⟨[p], none⟩ (t.forNames p fun name =>
      if t.entryIn? p name = some .directory then t.directories depth (below p name)
      else .nothing).lenient

/-- The number of levels of a tree. -/
def height (t : FileTree) : Nat := t.entries.foldl (fun n (l, _) => max n l.length) 0

/-- Goes on with a name in a directory if it is one of a directory.  Only a link has to be looked up
for that. -/
def ifDirectory (t : FileTree) (p : Path) (name : String) (find : Found) : Found :=
  match t.entryIn? p name with
  | some .directory => find
  | some (.link _) => t.ifFound (below p name) (t.isDirectory (below p name)) find
  | _ => .nothing

/-- The paths from a directory on that match the components. -/
def select (t : FileTree) : List PatternPart → Path → Found
  | [], p => ⟨[p], none⟩
  | .stop :: _, p => ⟨[p], none⟩
  | .name text :: rest, p =>
    let q := below p text
    (t.ifFound q (if rest.isEmpty then (t.status? q).isSome else t.isDirectory q)
      (t.select rest q)).lenient
  | .wildcard pattern :: rest, p =>
    (t.forNames p fun name =>
      let found := if Text.wildcard pattern name then t.select rest (below p name) else .nothing
      if rest.isEmpty then found else t.ifDirectory p name found).lenient
  | .descend :: rest, p =>
    let starts := t.directories (t.height + 1) p
    ((Found.collect (t.select rest) starts.paths).append ⟨[], starts.fault⟩).distinct.lenient

/-- The paths below a directory that match a pattern. -/
def search (t : FileTree) (directory : Path) (pattern : String) : Except PatternFault Found :=
  match PatternPart.readAll pattern with
  | .error fault => .error fault
  | .ok parts =>
    .ok (t.ifFound directory (t.isDirectory directory) (t.select parts directory))

end FileTree

end CrateAtlas
