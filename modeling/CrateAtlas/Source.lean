import CrateAtlas.FileTree.Links
import CrateAtlas.Items
import CrateAtlas.Syntax.Fault
import CrateAtlas.Text.Utf8

/-!
# Source files

A source file is read as UTF-8 text in which every line ends in a line feed, and its text is parsed
into a block.  How a text becomes a syntax tree is a parameter: a parser gives a tree, perhaps one
with errors in it, or nothing at all.
-/

set_option autoImplicit false

namespace CrateAtlas.Source

/-- A parser of source text. -/
abbrev Parser := String → Option Node

/-- The text of a file. -/
def readText (t : FileTree) (file : Path) : Except Diagnostic String :=
  match t.read file with
  | .error fault => .error (.unreadable file fault.message)
  | .ok octets =>
    match Text.decode octets with
    | .error fault => .error (.unreadable file fault.message)
    | .ok cs => .ok (String.ofList (Text.unifyBreaks cs))

/-- The block of a source text.  A text without a tree is reported without a place. -/
def parseText (parse : Parser) (file : Path) (text : String) : Except Diagnostic Block :=
  match parse text with
  | none => .error (.notRust file 0 0 "detail")
  | some root => if root.broken then .error (root.diagnostic file) else .ok (.ofNode root)

/-- The block of a source file. -/
def readBlock (parse : Parser) (t : FileTree) (file : Path) : Except Diagnostic Block :=
  match readText t file with
  | .error d => .error d
  | .ok text => parseText parse file text

/-- A file with a block is one of the files of the tree. -/
theorem mem_files_of_readBlock {parse : Parser} {t : FileTree} {file : Path} {block : Block}
    (h : readBlock parse t file = .ok block) : t.target file ∈ t.files := by
  unfold readBlock readText at h
  cases hr : t.read file with
  | error fault => simp [hr] at h
  | ok octets => exact FileTree.mem_files_of_read hr

end CrateAtlas.Source
