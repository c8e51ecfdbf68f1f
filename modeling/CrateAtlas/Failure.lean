import CrateAtlas.Diagnostic
import CrateAtlas.FileTree.Search
import CrateAtlas.ModuleGraph
import CrateAtlas.Text.Utf8
import CrateAtlas.Yaml.Token

/-!
# Failures

Why an operation has no result at all.  Most failures are diagnostics about the data under analysis;
the others say that a value had the wrong shape for what was asked of it, or that the file system
did not let the run find out what it asked, and end the run.
-/

set_option autoImplicit false

namespace CrateAtlas

/-- Why an operation has no result. -/
inductive Failure where
  | diagnostic (d : Diagnostic)
  /-- A configuration file or a manifest is not UTF-8. -/
  | undecodable (fault : Text.Utf8Fault)
  /-- A value of this type is no collection. -/
  | notIterable (type : String)
  /-- A value of this type has no such member. -/
  | noMember (type member : String)
  /-- A value of this type cannot be joined to a path. -/
  | notPathPart (type : String)
  | unknownSetting (name : String)
  | pattern (fault : PatternFault)
  /-- A value stands where a use tree should be. -/
  | foreignUse (shown : String)
  | graph (fault : GraphFault)
  /-- A scalar does not have the form that its type asks for. -/
  | scalar (fault : Yaml.ScalarFault)
  /-- A path holds the null character. -/
  | nullInPath
  /-- What a path leads to cannot be found out. -/
  | blocked (fault : AccessFault) (path : Path)
  /-- A path leads round in circles. -/
  | linkLoop (path : Path)
deriving DecidableEq, Repr

/-- Whether a failure is more than a diagnostic: it breaks off what was being done. -/
def Failure.isFatal : Failure → Bool
  | .diagnostic _ => false
  | _ => true

/-- The words for why a pattern is refused. -/
def PatternFault.message : PatternFault → String
  | .absolute => "Non-relative patterns are unsupported"
  | .doubleStar => "Invalid pattern: '**' can only be an entire path component"

/-- The words for why a certain path cannot be opened. -/
def AccessFault.line (fault : AccessFault) (p : Path) : String :=
  "[Errno " ++ toString fault.number ++ "] " ++ fault.message ++ ": " ++ Text.quoted p.render

/-- The line in which a failure is reported. -/
def Failure.message : Failure → String
  | .diagnostic d => d.message
  | .undecodable fault => fault.message
  | .notIterable type => "'" ++ type ++ "' object is not iterable"
  | .noMember type member => "'" ++ type ++ "' object has no attribute '" ++ member ++ "'"
  | .notPathPart type => "unsupported operand type(s) for /: 'PosixPath' and '" ++ type ++ "'"
  | .unknownSetting name =>
    "DgmodConfig.__init__() got an unexpected keyword argument '" ++ name ++ "'"
  | .pattern fault => fault.message
  | .foreignUse shown => "unsupported use tree node: " ++ shown
  | .graph fault => fault.message
  | .scalar fault => fault.message
  | .nullInPath => "embedded null byte"
  | .blocked fault path => fault.line path
  | .linkLoop path => "Symlink loop from " ++ Text.quoted path.render

/-- The path itself, unless it cannot be looked up. -/
def Path.checked (p : Path) : Except Failure Path :=
  bif p.hasNull then .error .nullInPath else .ok p

end CrateAtlas
