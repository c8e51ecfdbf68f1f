import CrateAtlas.Log
import CrateAtlas.Manifest
import CrateAtlas.Text.LowerCase

/-!
# Settings

How a run renders its result and what it leaves out.  Settings are read from values by name; a value
that a setting cannot take is refused, and a setting that is not given keeps its former value.

* `Settings.ofEntries` reads the mapping in a settings file.  Dashes in a key count as underscores,
  and of several keys for one setting the last one holds.
* `Settings.merge` applies overrides, of which null ones do not count.
-/

set_option autoImplicit false

namespace CrateAtlas

/-- The format of the output. -/
inductive Format where
  | mermaid
  | json
  | ascii
deriving DecidableEq, Repr, Inhabited

/-- The formats. -/
def Format.all : List Format := [.mermaid, .json, .ascii]

/-- The name of a format. -/
def Format.label : Format → String
  | .mermaid => "mermaid"
  | .json => "json"
  | .ascii => "ascii"

/-- The direction in which a diagram grows. -/
inductive Orientation where
  | td
  | tb
  | lr
  | rl
  | bt
deriving DecidableEq, Repr, Inhabited

/-- The orientations. -/
def Orientation.all : List Orientation := [.td, .tb, .lr, .rl, .bt]

/-- The name of an orientation. -/
def Orientation.label : Orientation → String
  | .td => "TD"
  | .tb => "TB"
  | .lr => "LR"
  | .rl => "RL"
  | .bt => "BT"

/-- The strokes of an outline. -/
inductive OutlineStyle where
  | tree
  | ascii
deriving DecidableEq, Repr, Inhabited

/-- The styles. -/
def OutlineStyle.all : List OutlineStyle := [.tree, .ascii]

/-- The name of a style. -/
def OutlineStyle.label : OutlineStyle → String
  | .tree => "tree"
  | .ascii => "ascii"

/-- The settings of a run. -/
structure Settings where
  format : Format
  orientation : Orientation
  dashedImports : Bool
  excludeTests : Bool
  exclude : List String
  style : OutlineStyle
deriving DecidableEq, Repr, Inhabited

/-- The settings when none are given. -/
def Settings.default : Settings := ⟨.mermaid, .td, false, false, [], .tree⟩

namespace Settings

/-- The names of the settings. -/
def names : List String :=
  ["format", "orientation", "dashed_imports", "exclude_tests", "exclude", "ascii_style"]

/-! ## Reading values -/

/-- Values of settings by name; of several for one name the first one counts. -/
abbrev Given := List (String × Value)

/-- A setting with a fixed choice of names. -/
def readChoice {α : Type} (given : Given) (setting : String) (label : α → String)
    (choices : List α) (former : α) : Except SettingsFault α :=
  match given.lookup setting with
  | none => .ok former
  | some v =>
    match choices.find? fun a => v.text? = some (label a) with
    | some a => .ok a
    | none => .error (.notChoice setting (choices.map label))

/-- A setting that is true or false. -/
def readFlag (given : Given) (setting : String) (former : Bool) : Except SettingsFault Bool :=
  match given.lookup setting with
  | none => .ok former
  | some (.bool b) => .ok b
  | some _ => .error (.notFlag setting)

/-- A list of patterns. -/
def readPatterns (given : Given) (setting : String) (former : List String) :
    Except SettingsFault (List String) :=
  match given.lookup setting with
  | none => .ok former
  | some (.list items) =>
    match items.mapM Value.text? with
    | some patterns => .ok patterns
    | none => .error .notPatterns
  | some _ => .error .notPatterns

/-- Applies the given values to settings. -/
def apply (s : Settings) (given : Given) : Except SettingsFault Settings := do
  let format ← readChoice given "format" Format.label Format.all s.format
  let orientation ← readChoice given "orientation" Orientation.label Orientation.all s.orientation
  let style ← readChoice given "ascii_style" OutlineStyle.label OutlineStyle.all s.style
  let dashedImports ← readFlag given "dashed_imports" s.dashedImports
  let excludeTests ← readFlag given "exclude_tests" s.excludeTests
  let exclude ← readPatterns given "exclude" s.exclude
  return ⟨format, orientation, dashedImports, excludeTests, exclude, style⟩

/-! ## Settings files -/

/-- The failure to read settings from a file. -/
def failure (source : Path) (fault : SettingsFault) : Failure :=
  .diagnostic (.settings source fault)

/-- The name of the setting that a key stands for. -/
def settingName (key : Value) : String :=
  String.ofList (key.bare.toList.map fun c => if c = '-' then '_' else c)

/-- The values that the entries of a settings file give, the last ones first.  A key that is too
long to be written has no name. -/
def collect (source : Path) : List (Value × Value) → Given → Except Failure Given
  | [], given => .ok given
  | (key, v) :: rest, given =>
    if key.isLong then .error (.scalar .unwritable)
    else if names.contains (settingName key) then
      collect source rest ((settingName key, v) :: given)
    else .error (failure source (.unknownKey key.bare))

/-- A single pattern counts as a list of one. -/
def wrapPattern (given : Given) : Given :=
  match given.lookup "exclude" with
  | some (.text s) => ("exclude", .list [.text s]) :: given
  | _ => given

/-- The settings in the entries of a settings file. -/
def ofEntries (source : Path) (entries : List (Value × Value)) : Except Failure Settings := do
  let given ← collect source entries []
  (Settings.default.apply (wrapPattern given)).mapError (failure source)

/-- The settings in the mapping that a settings file holds. -/
def ofValue (source : Path) : Value → Except Failure Settings
  | .map entries => ofEntries source entries
  | v => .error (.noMember v.typeName "items")

/-! ## Overrides -/

/-- The overrides that count. -/
def changes (overrides : Given) : Given :=
  overrides.filter fun (_, v) =>
    match v with
    | .null => false
    | _ => true

/-- Where overrides come from. -/
def commandLine : Path := .parse "<command line>"

/-- Settings with overrides. -/
def merge (s : Settings) (overrides : Given) : Except Failure Settings :=
  let given := changes overrides
  match given.find? fun (name, _) => !names.contains name with
  | some (name, _) => .error (.unknownSetting name)
  | none =>
    if given.isEmpty then .ok s else (s.apply given).mapError (failure commandLine)

end Settings

end CrateAtlas
