import CrateAtlas.Settings

/-!
# Switches of the command line

The switches that the command line knows, the names under which they are given, and how many words
they take.
-/

set_option autoImplicit false

namespace CrateAtlas

/-- A switch of the command line. -/
inductive Switch where
  | help
  | output
  | format
  | orientation
  | dashedImports
  | style
  | excludeTests
  | exclude
  | config
  | verbose
deriving DecidableEq, Repr

/-- How many words a switch takes. -/
inductive Arity where
  | zero
  | one
  | many
deriving DecidableEq, Repr

namespace Switch

/-- The switches, in the order in which the help lists them. -/
def all : List Switch :=
  [.help, .output, .format, .orientation, .dashedImports, .style, .excludeTests, .exclude, .config,
    .verbose]

/-- The names of a switch. -/
def names : Switch → List String
  | .help => ["-h", "--help"]
  | .output => ["-o", "--output"]
  | .format => ["-f", "--format"]
  | .orientation => ["--orientation"]
  | .dashedImports => ["--dashed-imports"]
  | .style => ["--ascii-style"]
  | .excludeTests => ["--exclude-tests"]
  | .exclude => ["--exclude"]
  | .config => ["--config"]
  | .verbose => ["-v", "--verbose"]

/-- How many words a switch takes. -/
def arity : Switch → Arity
  | .help | .dashedImports | .excludeTests | .verbose => .zero
  | .output | .format | .orientation | .style | .config => .one
  | .exclude => .many

/-- The words among which a switch has to choose, if there is a choice. -/
def choices : Switch → Option (List String)
  | .format => some (Format.all.map Format.label)
  | .orientation => some (Orientation.all.map Orientation.label)
  | .style => some (OutlineStyle.all.map OutlineStyle.label)
  | _ => none

/-- Every name with its switch. -/
def table : List (String × Switch) := all.flatMap fun s => s.names.map fun name => (name, s)

/-- The switch with a name. -/
def named? (name : String) : Option Switch := table.lookup name

/-- How a switch is called in messages. -/
def title (s : Switch) : String := "/".intercalate s.names

end Switch

end CrateAtlas
