import CrateAtlas.Settings
import CrateAtlas.Text.Line
import CrateAtlas.Yaml

/-!
# Settings files

Settings come from a YAML file or from a TOML file.  In a manifest they stand in a table below the
metadata of the workspace or the package, in another TOML file in a table of their own or at the
top.

* `Settings.find?` looks for a settings file in a directory.  YAML files come first; a manifest only
  counts if it has a table of settings, and a broken manifest does not.
* `Settings.load` reads the settings from a given file, or from the one it finds; without any, the
  default settings hold.

How a text becomes a YAML document is a parameter.
-/

set_option autoImplicit false

namespace CrateAtlas.Settings

/-- The names of settings files, the preferred ones first. -/
def fileNames : List String := ["dgmod.yaml", "dgmod.yml", ".dgmod.yaml", ".dgmod.yml"]

/-- The name of the table of settings in a TOML file. -/
def tableName : String := "dgmod"

/-- The table of settings in a manifest. -/
def manifestTable? (manifest : Manifest) : Option (List (Value × Value)) :=
  ["workspace", "package"].findSome? fun section_ =>
    match ((Value.lookup? manifest section_).bind (·.member? "metadata")).bind
      (·.member? tableName) with
    | some (.map entries) => some entries
    | _ => none

/-! ## Reading files -/

/-- Octets as a text that is read piece by piece. -/
def streamOf (octets : List Nat) : Yaml.Stream :=
  match Text.decode octets with
  | .ok cs => ⟨Text.unifyBreaks cs, none⟩
  | .error fault =>
    match Text.decode (octets.take fault.start) with
    | .ok cs => ⟨Text.unifyBreaks cs, some fault⟩
    | .error _ => ⟨[], some fault⟩

/-- The mapping that a reader of YAML has found in a file; an empty file holds an empty one. -/
def ofYaml (file : Path) : Except Yaml.StreamFault Value → Except Failure Value
  | .error (.undecodable fault) => .error (.undecodable fault)
  | .error (.document .invalid) => .error (failure file .invalidYaml)
  | .error (.document (.scalar fault)) => .error (.scalar fault)
  | .ok .null => .ok (.map [])
  | .ok (.map entries) => .ok (.map entries)
  | .ok _ => .error (failure file .notMapping)

/-- The mapping in a YAML file. -/
def readYaml (read : Yaml.Reader) (t : FileTree) (file : Path) : Except Failure Value :=
  match t.read file with
  | .error fault => .error (failure file (.unreadable fault.message))
  | .ok octets => ofYaml file (read (streamOf octets))

/-- The document in a TOML file. -/
def readDocument (t : FileTree) (file : Path) : Except Failure Manifest :=
  match readToml t file with
  | .ok manifest => .ok manifest
  | .error (.unreadable fault) => .error (failure file (.unreadable fault.message))
  | .error (.undecodable fault) => .error (.undecodable fault)
  | .error (.malformed .invalid) => .error (failure file .invalidToml)
  | .error (.malformed (.tooManyDigits count)) => .error (.scalar (.tooManyDigits count))

/-- The value with the settings of a TOML file. -/
def tomlSettings (file : Path) (document : Manifest) : Value :=
  if file.name = manifestName then .map ((manifestTable? document).getD [])
  else (Value.lookup? document tableName).getD (.map document)

/-- The settings in a file, whose format is told by its name. -/
def ofFile (read : Yaml.Reader) (t : FileTree) (file : Path) : Except Failure Settings := do
  let suffix := String.ofList (Text.lower file.suffix.toList)
  if suffix = ".yaml" ∨ suffix = ".yml" then ofValue file (← readYaml read t (← file.checked))
  else if suffix = ".toml" then
    ofValue file (tomlSettings file (← readDocument t (← file.checked)))
  else throw (failure file (.unsupportedType suffix))

/-! ## Finding files -/

/-- The settings in a manifest that was found: where they are, if there are any.  A manifest that
cannot be read, or is not TOML, has none. -/
def findIn? (t : FileTree) (manifest : Path) : Except Failure (Option Path) :=
  match readToml t manifest with
  | .ok document => .ok (if (manifestTable? document).isSome then some manifest else none)
  | .error (.undecodable fault) => .error (.undecodable fault)
  | .error (.malformed (.tooManyDigits count)) => .error (.scalar (.tooManyDigits count))
  | .error _ => .ok none

/-- The settings file in a directory. -/
def find? (t : FileTree) (directory : Path) : Except Failure (Option Path) :=
  match t.firstFile? (fileNames.map directory.join) with
  | .error f => .error f
  | .ok (some file) => .ok (some file)
  | .ok none =>
    let manifest := directory.join manifestName
    match t.probe t.isFile manifest with
    | .error f => .error f
    | .ok true => findIn? t manifest
    | .ok false => .ok none

/-- The settings in a file that is asked for by its path. -/
def ofGiven (read : Yaml.Reader) (t : FileTree) (file : Path) : Except Failure Settings :=
  match t.probe t.isFile file with
  | .error f => .error f
  | .ok true => ofFile read t file
  | .ok false => .error (failure file .noFile)

/-- The settings for a directory, from the given file or from one in the directory. -/
def load (read : Yaml.Reader) (t : FileTree) (directory : Path) (file : Option Path) :
    Logged Settings :=
  match file with
  | some file => .ofExcept (ofGiven read t file)
  | none =>
    (Logged.ofExcept (find? t directory)).andThen fun found =>
      match found with
      | some file => (Logged.ofExcept (ofFile read t file)).after [.usingSettings file]
      | none => .done .default

end CrateAtlas.Settings
