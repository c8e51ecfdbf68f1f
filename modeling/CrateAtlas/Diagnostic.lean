import CrateAtlas.Path

/-!
# Diagnostics

What can be wrong with the crate, the workspace or the settings under analysis.  Each diagnostic
says what is wrong and where; `Diagnostic.message` is the line in which it is reported.
-/

set_option autoImplicit false

namespace CrateAtlas

/-- Why a crate or a member of a workspace cannot be enumerated. -/
inductive EnumerationFault where
  /-- There is neither a manifest nor a root file. -/
  | noCrate
  /-- The manifest has neither a package nor members. -/
  | nothingDeclared
  /-- A member has no manifest. -/
  | noManifest
  /-- The manifest of a member has no package. -/
  | noPackage
  /-- A package has no root file. -/
  | noRootFile (crate : String)
  | unreadable (reason : String)
  | invalid
  | other (text : String)
deriving DecidableEq, Repr

/-- The words for why a crate cannot be enumerated. -/
def EnumerationFault.message : EnumerationFault → String
  | .noCrate => "no Cargo.toml, src/lib.rs or src/main.rs found"
  | .nothingDeclared => "manifest declares neither a package nor workspace members"
  | .noManifest => "no Cargo.toml in workspace member"
  | .noPackage => "workspace member has no [package] table"
  | .noRootFile crate => "crate '" ++ crate ++ "' has no src/lib.rs or src/main.rs"
  | .unreadable reason => "cannot read manifest: " ++ reason
  | .invalid => "invalid manifest: detail"
  | .other text => text

/-- Why settings are refused. -/
inductive SettingsFault where
  | noFile
  | unsupportedType (suffix : String)
  | unreadable (reason : String)
  | invalidYaml
  | invalidToml
  | notMapping
  | unknownKey (key : String)
  /-- A setting is none of its choices. -/
  | notChoice (setting : String) (choices : List String)
  /-- A setting is neither true nor false. -/
  | notFlag (setting : String)
  | notPatterns
  | other (text : String)
deriving DecidableEq, Repr

/-- The words for why settings are refused. -/
def SettingsFault.message : SettingsFault → String
  | .noFile => "file does not exist"
  | .unsupportedType suffix => "unsupported file type '" ++ suffix ++ "'"
  | .unreadable reason => "cannot read file: " ++ reason
  | .invalidYaml => "invalid YAML: detail"
  | .invalidToml => "invalid TOML: detail"
  | .notMapping => "top level must be a mapping"
  | .unknownKey key => "unknown key '" ++ key ++ "'"
  | .notChoice setting choices => setting ++ " must be one of " ++ ", ".intercalate choices
  | .notFlag setting => setting ++ " must be true or false"
  | .notPatterns => "exclude must be a list of module path patterns"
  | .other text => text

/-- Something that is wrong with what is analysed. -/
inductive Diagnostic where
  /-- A source file cannot be read. -/
  | unreadable (file : Path) (reason : String)
  /-- A source file is not Rust. -/
  | notRust (file : Path) (line column : Int) (problem : String)
  /-- A declared module has no file. -/
  | noModuleFile (module : String) (expected : List Path) (declaredIn : Option Path)
  /-- A declaration loads a file from which it was reached. -/
  | circular (module : String) (file : Path) (declaredIn : Option Path)
  | enumeration (place : Path) (fault : EnumerationFault)
  | settings (source : Path) (fault : SettingsFault)
  | note (text : String)
deriving DecidableEq, Repr

namespace Diagnostic

/-- The file with a declaration, in front of what is wrong with it. -/
def lead (declaredIn : Option Path) : String :=
  match declaredIn with
  | some file => file.render ++ ": "
  | none => ""

/-- The line in which a diagnostic is reported. -/
def message : Diagnostic → String
  | .unreadable file reason => file.render ++ ": failed to read source: " ++ reason
  | .notRust file line column problem =>
    file.render ++ ":" ++ toString line ++ ":" ++ toString column ++ ": syntax error: " ++ problem
  | .noModuleFile module expected declaredIn =>
    lead declaredIn ++ "module '" ++ module ++ "' not found, expected " ++
      " or ".intercalate (expected.map Path.render)
  | .circular module file declaredIn =>
    lead declaredIn ++ "circular module '" ++ module ++ "', " ++ file.render ++
      " is already loaded"
  | .enumeration place fault => place.render ++ ": " ++ fault.message
  | .settings source fault => source.render ++ ": invalid configuration: " ++ fault.message
  | .note text => text

/-- Whether a diagnostic says that a declaration does not lead to a file. -/
def isResolution : Diagnostic → Bool
  | .noModuleFile .. | .circular .. => true
  | _ => false

/-- Whether a diagnostic comes from the analysis. -/
def isAnalysis : Diagnostic → Bool
  | .note _ => false
  | _ => true

end Diagnostic

end CrateAtlas
