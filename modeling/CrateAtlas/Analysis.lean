import CrateAtlas.Build
import CrateAtlas.Workspace

/-!
# Analysing crates

The graphs of all crates found at a directory, without the modules that are to be left out.  A crate
whose root file cannot be read is noted, and the others are analysed all the same.
-/

set_option autoImplicit false

namespace CrateAtlas

/-- The graphs of the crates, and what is wrong with crates as a whole. -/
structure Analysis where
  graphs : List ModuleGraph
  errors : List Diagnostic

namespace Analysis

/-- All diagnostics: those about whole crates, and then those of each graph. -/
def diagnostics (a : Analysis) : List Diagnostic :=
  a.errors ++ a.graphs.flatMap ModuleGraph.diagnostics

/-- Analyses crates one after the other. -/
def ofUnits (parse : Source.Parser) (t : FileTree) (exclude : List String) (tests : Bool) :
    List CrateUnit → Analysis → Logged Analysis
  | [], a => .done a
  | unit :: rest, a =>
    let built := (Build.graph parse t unit.name unit.rootFile).after
      [.analyzing unit.name unit.rootFile]
    match built.result with
    | .ok g =>
      (ofUnits parse t exclude tests rest
        { a with graphs := a.graphs ++ [g.exclude exclude tests] }).after built.log
    | .error (.diagnostic d) =>
      (ofUnits parse t exclude tests rest { a with errors := a.errors ++ [d] }).after built.log
    | .error f => (Logged.fail f).after built.log

/-- Analyses the crates found at a directory. -/
def ofDirectory (parse : Source.Parser) (t : FileTree) (directory : Path) (exclude : List String)
    (tests : Bool) : Logged Analysis :=
  (Workspace.discover t directory).andThen fun e =>
    ofUnits parse t exclude tests e.units ⟨[], e.errors⟩

end Analysis

end CrateAtlas
