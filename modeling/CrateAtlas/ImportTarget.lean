import CrateAtlas.ModulePath
import CrateAtlas.UseTree

/-!
# The modules that imports lead to

A path in a `use` item depends on the deepest module of the crate along it: importing a module leads
to that module, importing an item leads to the module that holds it.  A path that leads out of the
crate has no target.

* `crate`, `self` and `super` start at the root, at the current module and at its parent; more
  `super` segments climb further.
* Any other first segment has to be a child of the current module or, failing that, a module at the
  top of the crate.
-/

set_option autoImplicit false

namespace CrateAtlas.ImportTarget

/-- Climbs one module for each leading `super`, and gives what is left of the path.  There is
nothing above the root. -/
def climb (from_ : ModulePath) : RawPath → Option (ModulePath × RawPath)
  | [] => some (from_, [])
  | segment :: rest =>
    if segment = "super" then
      match from_.parent? with
      | some parent => climb parent rest
      | none => none
    else some (from_, segment :: rest)

/-- The module from which a path is followed, and the segments to follow. -/
def start? (known : ModulePath → Bool) (current : ModulePath) :
    RawPath → Option (ModulePath × RawPath)
  | [] => none
  | head :: rest =>
    if head = "crate" then some (.root, rest)
    else if head = "self" then some (current, rest)
    else if head = "super" then climb current (head :: rest)
    else if known (current.child head) then some (current, head :: rest)
    else if known (ModulePath.root.child head) then some (.root, head :: rest)
    else none

/-- Walks down from a module while each step leads to a known one. -/
def deepest (known : ModulePath → Bool) (from_ : ModulePath) : RawPath → ModulePath
  | [] => from_
  | segment :: rest =>
    if known (from_.child segment) then deepest known (from_.child segment) rest else from_

/-- The module that a path leads to. -/
def target? (known : ModulePath → Bool) (current : ModulePath) (path : RawPath) :
    Option ModulePath :=
  match start? known current path with
  | some (base, rest) => if known base then some (deepest known base rest) else none
  | none => none

/-- Drops every repetition after the first. -/
def distinct (paths : List ModulePath) : List ModulePath :=
  (paths.foldl (fun acc p => if acc.contains p then acc else p :: acc) []).reverse

/-- The modules that the use trees of a module lead to, in the order of the text and without
repetition. -/
def targets (known : ModulePath → Bool) (current : ModulePath) (trees : List UseTree) :
    Except Failure (List ModulePath) :=
  match UseTree.flattenAll trees [] with
  | .error f => .error f
  | .ok paths => .ok (distinct (paths.filterMap (target? known current)))

end CrateAtlas.ImportTarget
