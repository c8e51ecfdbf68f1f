import CrateAtlas.Log
import CrateAtlas.Manifest

/-!
# Workspaces

The crates found at a directory.  A directory without a manifest is a single crate, a manifest with
a package describes one, and a workspace adds one for each of its members.

* A member is named by a directory, or by a pattern that stands for all directories with a manifest
  that match it, in order.  Directories that tools make are not searched for.
* A member that cannot be enumerated is noted, and the others are enumerated all the same.
* What cannot be found out about a path, and a path that leads round in circles, end the
  enumeration.
-/

set_option autoImplicit false

namespace CrateAtlas.Workspace

/-- Directories that tools make. -/
def toolDirectories : List String :=
  [".git", ".hg", ".svn", "target", "node_modules", ".cargo", ".idea", ".vscode"]

/-- What a collection holds: the items of a list, the keys of a mapping, the characters of a text.
-/
def itemsOf : Value → Except Failure (List Value)
  | .list items => .ok items
  | .set items => .ok items
  | .map entries => .ok (entries.map Prod.fst)
  | .text s => .ok (s.toList.map fun c => .text (String.ofList [c]))
  | .octets bytes => .ok (bytes.map fun (b : Nat) => .int (b : Int))
  | v => .error (.notIterable v.typeName)

/-- The items of an entry; an entry that is missing or void has none. -/
def listed (workspace : List (Value × Value)) (name : String) : Except Failure (List Value) :=
  match Value.lookup? workspace name with
  | none => .ok []
  | some v => if v.isVoid then .ok [] else itemsOf v

/-- The directories that are left out of a workspace. -/
def excluded (t : FileTree) (root : Path) (workspace : List (Value × Value)) :
    Except Failure (List Path) := do
  let entries ← listed workspace "exclude"
  entries.mapM fun
    | .text s => t.canonical (root.join s)
    | v => .error (.notPathPart v.typeName)

/-- Whether a path that was found leads to a member: to a directory with a manifest in it, and not
to one that a tool has made. -/
def isMember (t : FileTree) (p : Path) : Except Failure Bool :=
  match t.probe t.isDirectory p with
  | .error f => .error f
  | .ok false => .ok false
  | .ok true =>
    if toolDirectories.contains p.name then .ok false else t.probe t.isFile (p.join manifestName)

/-- The directories of the members among the paths that were found. -/
def membersAmong (t : FileTree) : List Path → Except Failure (List Path)
  | [] => .ok []
  | p :: rest =>
    match isMember t p with
    | .error f => .error f
    | .ok false => membersAmong t rest
    | .ok true =>
      match t.canonical p with
      | .error f => .error f
      | .ok directory =>
        match membersAmong t rest with
        | .error f => .error f
        | .ok others => .ok (directory :: others)

/-- The directories of the members that a search has found, in order. -/
def eligible (t : FileTree) (found : Found) : Except Failure (List Path) :=
  match membersAmong t found.paths, found.fault with
  | .error f, _ => .error f
  | .ok _, some (fault, p) => .error (.blocked fault p)
  | .ok directories, none => .ok (Path.sort directories)

/-- The directories that a pattern stands for: those with a manifest, in order. -/
def expand (t : FileTree) (root : Path) (pattern : String) : Except Failure (List Path) :=
  match t.search root pattern with
  | .error fault => .error (.pattern fault)
  | .ok found => eligible t found

/-- The directories that an entry of the list of members stands for. -/
def matching (t : FileTree) (root : Path) : Value → Except Failure (List Path)
  | .text entry =>
    if Text.hasWildcard entry then expand t root entry
    else (t.canonical (root.join entry)).map fun directory => [directory]
  | _ => .ok []

/-- Directories of members, and what stopped the enumeration, if anything did. -/
structure Members where
  directories : List Path
  failure : Option Failure

/-- The members that the entries stand for, without the excluded directories. -/
def collect (t : FileTree) (root : Path) (excluded : List Path) : List Value → Members
  | [] => ⟨[], none⟩
  | entry :: rest =>
    match matching t root entry with
    | .error f => ⟨[], some f⟩
    | .ok found =>
      let others := collect t root excluded rest
      ⟨(found.filter fun p => !excluded.contains p) ++ others.directories, others.failure⟩

/-- The members of a workspace. -/
def members (t : FileTree) (root : Path) (workspace : Value) : Members :=
  match workspace with
  | .map entries =>
    match excluded t root entries with
    | .error f => ⟨[], some f⟩
    | .ok excluded =>
      match listed entries "members" with
      | .error f => ⟨[], some f⟩
      | .ok patterns => collect t root excluded patterns
  | v => ⟨[], some (.noMember v.typeName "get")⟩

/-- The crates of a workspace, and the diagnostics for those that cannot be enumerated. -/
structure Enumeration where
  units : List CrateUnit
  errors : List Diagnostic

/-- Enumerates the members that were not seen before. -/
def enumerate (t : FileTree) : List Path → List Path → Enumeration → Logged Enumeration
  | [], _, e => .done e
  | directory :: rest, seen, e =>
    if seen.contains directory then enumerate t rest seen e
    else
      match unitIn t directory with
      | .ok unit => enumerate t rest (directory :: seen) { e with units := e.units ++ [unit] }
      | .error (.diagnostic (.enumeration place fault)) =>
        (enumerate t rest (directory :: seen)
          { e with errors := e.errors ++ [.enumeration place fault] }).after
          [.skippedMember directory fault]
      | .error f => .fail f

/-- The crates that a manifest leads to, after the one of its own package. -/
def withMembers (t : FileTree) (root : Path) (own : List CrateUnit) (workspace : Option Value) :
    Logged Enumeration :=
  match workspace with
  | some (.map entries) =>
    let found := members t root (.map entries)
    (enumerate t found.directories (own.map CrateUnit.directory) ⟨own, []⟩).andThen fun e =>
      match found.failure with
      | some f => .fail f
      | none => .done e
  | _ => .done ⟨own, []⟩

/-- The crate of a manifest's own package, if it has one. -/
def ownUnit (t : FileTree) (root manifestPath : Path) (manifest : Manifest) :
    Except Failure (List CrateUnit) :=
  match manifest.table? "package" with
  | none => .ok []
  | some package =>
    (packageUnit t root manifestPath manifest package).map fun unit => [unit]

/-- The crates found at a directory. -/
def discover (t : FileTree) (directory : Path) : Logged Enumeration :=
  (Logged.ofExcept (t.canonical directory)).andThen fun root =>
  let manifestPath := root.join manifestName
  (Logged.ofExcept (t.probe t.isFile manifestPath)).andThen fun hasManifest =>
  if hasManifest then
    (Logged.ofExcept (Manifest.load t manifestPath)).andThen fun manifest =>
    (Logged.ofExcept (ownUnit t root manifestPath manifest)).andThen fun own =>
    (withMembers t root own (Value.lookup? manifest "workspace")).andThen fun e =>
      if e.units.isEmpty && e.errors.isEmpty then
        .fail (enumerationFailure manifestPath .nothingDeclared)
      else .done e
  else
    (Logged.ofExcept (Placement.crateRoot? t root)).andThen fun rootFile =>
    match rootFile with
    | some rootFile => .done ⟨[⟨root.name, root, rootFile⟩], []⟩
    | none => .fail (enumerationFailure root .noCrate)

end CrateAtlas.Workspace
