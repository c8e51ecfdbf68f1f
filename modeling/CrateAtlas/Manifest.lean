import CrateAtlas.FileTree.Query
import CrateAtlas.Placement
import CrateAtlas.Toml

/-!
# Manifests and crates

A manifest is the TOML document that describes a crate or a workspace.  A *unit* is a crate to be
analysed: its name, its directory and its root file.
-/

set_option autoImplicit false

namespace CrateAtlas

/-- The name of the file that holds a manifest. -/
def manifestName : String := "Cargo.toml"

/-- A manifest: the entries of its document. -/
abbrev Manifest := List (Value × Value)

/-- Why a TOML file gives no document. -/
inductive TomlFault where
  | unreadable (fault : AccessFault)
  | undecodable (fault : Text.Utf8Fault)
  | malformed (fault : Toml.Fault)
deriving DecidableEq, Repr

/-- The document in a TOML file. -/
def readToml (t : FileTree) (file : Path) : Except TomlFault Manifest :=
  match t.read file with
  | .error fault => .error (.unreadable fault)
  | .ok octets =>
    match Text.decode octets with
    | .error fault => .error (.undecodable fault)
    | .ok cs =>
      (Toml.parse (String.ofList cs)).mapError .malformed

/-- The failure to enumerate a crate. -/
def enumerationFailure (place : Path) (fault : EnumerationFault) : Failure :=
  .diagnostic (.enumeration place fault)

/-- The manifest in a file. -/
def Manifest.load (t : FileTree) (file : Path) : Except Failure Manifest :=
  file.checked.bind fun file =>
    match readToml t file with
    | .ok manifest => .ok manifest
    | .error (.unreadable fault) => .error (enumerationFailure file (.unreadable fault.message))
    | .error (.undecodable fault) => .error (.undecodable fault)
    | .error (.malformed .invalid) => .error (enumerationFailure file .invalid)
    | .error (.malformed (.tooManyDigits count)) => .error (.scalar (.tooManyDigits count))

/-- The table of a manifest with the given name. -/
def Manifest.table? (manifest : Manifest) (name : String) : Option (List (Value × Value)) :=
  match Value.lookup? manifest name with
  | some (.map entries) => some entries
  | _ => none

/-- The text of an entry. -/
def entryText? (entries : List (Value × Value)) (name : String) : Option String :=
  (Value.lookup? entries name).bind Value.text?

/-! ## Crates -/

/-- A crate to be analysed. -/
structure CrateUnit where
  name : String
  directory : Path
  rootFile : Path
deriving DecidableEq, Repr

/-- The root files that the `bin` tables of a manifest name. -/
def Manifest.binaryPaths (manifest : Manifest) : List String :=
  match Value.lookup? manifest "bin" with
  | some (.list items) => items.filterMap fun item => (item.member? "path").bind Value.text?
  | _ => []

/-- The files that may be the root of a crate, the preferred ones first: the one named for the
library, `src/lib.rs`, those named for the binaries, and `src/main.rs`. -/
def Manifest.rootCandidates (manifest : Manifest) (directory : Path) : List Path :=
  let library := ((manifest.table? "lib").bind (entryText? · "path")).toList
  let source := directory.join "src"
  library.map directory.join ++ [source.join "lib.rs"] ++
    manifest.binaryPaths.map directory.join ++ [source.join "main.rs"]

/-- The name of a crate: that of its package, or else that of its directory. -/
def crateName (package : List (Value × Value)) (directory : Path) : String :=
  match entryText? package "name" with
  | some name => if name.isEmpty then directory.name else name
  | none => directory.name

/-- The crate that a manifest with a package describes. -/
def packageUnit (t : FileTree) (directory manifestPath : Path) (manifest : Manifest)
    (package : List (Value × Value)) : Except Failure CrateUnit :=
  let name := crateName package directory
  match t.firstFile? (manifest.rootCandidates directory) with
  | .error f => .error f
  | .ok (some rootFile) => .ok ⟨name, directory, rootFile⟩
  | .ok none => .error (enumerationFailure manifestPath (.noRootFile name))

/-- The crate in a directory with a manifest. -/
def unitIn (t : FileTree) (directory : Path) : Except Failure CrateUnit :=
  let manifestPath := directory.join manifestName
  match t.probe t.isFile manifestPath with
  | .error f => .error f
  | .ok false => .error (enumerationFailure directory .noManifest)
  | .ok true =>
    match Manifest.load t manifestPath with
    | .error f => .error f
    | .ok manifest =>
      match manifest.table? "package" with
      | none => .error (enumerationFailure manifestPath .noPackage)
      | some package => packageUnit t directory manifestPath manifest package

end CrateAtlas
