import CrateAtlas.Diagnostic
import CrateAtlas.Syntax.Node
import CrateAtlas.Text.Blank
import CrateAtlas.Text.Line

/-!
# Reporting syntax errors

A tree with an error in it is reported by its first damaged node: where it starts, and either what
is missing there or the beginning of the text that does not parse.
-/

set_option autoImplicit false

namespace CrateAtlas.Node

/-- The most characters of a text that are shown. -/
def shownLength : Nat := 40

/-- The beginning of the first line of a text, without the blanks around the text. -/
def firstWords (text : String) : String :=
  match Text.lines (Text.trim text.toList) with
  | [] => ""
  | line :: _ => String.ofList (line.take shownLength)

/-- What is wrong at a node. -/
def problem (n : Node) : String :=
  if n.missing then "missing '" ++ n.kind ++ "'"
  else
    match firstWords n.contents with
    | "" => "unexpected end of input"
    | words => "unexpected '" ++ words ++ "'"

/-- The diagnostic for a tree with an error in it.  Lines and columns count from one. -/
def diagnostic (root : Node) (file : Path) : Diagnostic :=
  let n := root.firstFault?.getD root
  .notRust file (n.start.row + 1) (n.start.column + 1) n.problem

end CrateAtlas.Node
