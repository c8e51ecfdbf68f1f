import CrateAtlas.FileTree.Query

/-!
# Where modules lie

Where the items of a declared module are found, and in which directory the modules that it declares
are looked for.

* An inline module shares the file of the module that declares it.
* A module `m` in a directory `d` lies in the file `d/m.rs` or, failing that, in `d/m/mod.rs`.
* A `path` attribute names the file outright.  It is relative to the directory of the declaring
  file, or to the directory of an inline module, and the file need not exist.

That there is no file for a module is a diagnostic; if it cannot be found out whether there is one,
then there is no result at all.
-/

set_option autoImplicit false

namespace CrateAtlas

/-- The module in which a declaration stands: its path, the file it lies in, the directory of the
modules it declares, and whether it is inline. -/
structure Scope where
  path : ModulePath
  file : Path
  directory : Path
  isInline : Bool
deriving DecidableEq, Repr

/-- The scope of a module; its directory is that of its file unless another one is given. -/
def Scope.of (path : ModulePath) (file : Path) (directory : Option Path) (isInline : Bool) :
    Scope :=
  ⟨path, file, directory.getD file.parent, isInline⟩

/-- Where a module lies. -/
structure Placement where
  path : ModulePath
  file : Path
  kind : ModuleKind
  directory : Path
deriving DecidableEq, Repr

namespace Placement

/-- Whether the module is inline. -/
def isInline (p : Placement) : Bool := p.kind = .inline

/-- The directory in which the modules declared in a file are looked for.  The root of a crate, a
file called `mod.rs` and a file named by an attribute own the directory they lie in; any other file
owns the directory that is called as it is, without its ending. -/
def ownedDirectory (file : Path) (ownsParent : Bool) : Path :=
  if ownsParent || file.name = "mod.rs" then file.parent else file.parent.join file.stem

/-- The file that holds the root of a crate. -/
def crateRoot? (t : FileTree) (directory : Path) : Except Failure (Option Path) :=
  t.firstFile? (["lib.rs", "main.rs"].map ((directory.join "src").join ·))

/-- Places a declared module. -/
def ofDeclaration (t : FileTree) (scope : Scope) (name : String) (isInline : Bool)
    (override : Option String) : Except Failure Placement :=
  let path := scope.path.child name
  if isInline then .ok ⟨path, scope.file, .inline, scope.directory.join name⟩
  else
    match override with
    | some target =>
      let base := if scope.isInline then scope.directory else scope.file.parent
      let file := base.join target
      .ok ⟨path, file, .external, ownedDirectory file true⟩
    | none =>
      let direct := scope.directory.join (name ++ ".rs")
      let nested := (scope.directory.join name).join "mod.rs"
      match t.probe t.isFile direct with
      | .error f => .error f
      | .ok true => .ok ⟨path, direct, .external, ownedDirectory direct false⟩
      | .ok false =>
        match t.probe t.isFile nested with
        | .error f => .error f
        | .ok true => .ok ⟨path, nested, .external, ownedDirectory nested true⟩
        | .ok false =>
          .error (.diagnostic (.noModuleFile path.render [direct, nested] (some scope.file)))

end Placement

end CrateAtlas
