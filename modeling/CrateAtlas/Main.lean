import CrateAtlas.CommandLine.Run
import CrateAtlas.Rust.Parse

/-!
# The program

Takes a picture of the part of the file system that a run can see, runs on it, and carries out what
the run decided: the two texts, the file that was written and the exit status.
-/

set_option autoImplicit false

namespace CrateAtlas.Picture

/-- Adds an entry at an absolute path, with directories above it. -/
def add (t : FileTree) (path : String) (e : Entry) : FileTree :=
  let l := (Path.parse path).parts
  let t := t.makeDirectories l.dropLast
  if (t.entryAt? l).isSome && e = .directory then t else t.put l e

/-- Notes that the entry at an absolute path cannot be read. -/
def unreadable (t : FileTree) (path : String) : FileTree :=
  { t with denied := ((Path.parse path).parts, .read) :: t.denied }

/-- Adds a path and all that lies below it.  A link is kept as a link to its final target, which is
added too unless it is there already. -/
partial def below (t : FileTree) (path : String) : IO FileTree := do
  let some real ← (some <$> IO.FS.realPath path) <|> pure none | return t
  if real.toString ≠ path then
    let t := add t path (.link real.toString)
    if (t.entryAt? (Path.parse real.toString).parts).isSome then return t
    below t real.toString
  else if ← real.isDir then
    let mut t := add t path .directory
    let some children ← (some <$> real.readDir) <|> pure none | return unreadable t path
    for child in children do
      t ← below t child.path.toString
    return t
  else if ← real.pathExists then
    let octets ← (some <$> IO.FS.readBinFile path) <|> pure none
    return match octets with
      | some bytes => add t path (.file (bytes.toList.map UInt8.toNat))
      | none => unreadable (add t path (.file [])) path
  else return t

/-- Adds a single path, without what lies below it. -/
def alone (t : FileTree) (path : String) : IO FileTree := do
  let some real ← (some <$> IO.FS.realPath path) <|> pure none | return t
  if ← real.isDir then
    return add t path (if real.toString = path then .directory else .link real.toString)
  else below t path

/-- A path from the top, as it is written. -/
def absolute (here path : String) : String := ((Path.parse here).join path).render

/-- The part of the file system that a run with some arguments can see. -/
def take (here : String) (a : Arguments) : IO FileTree := do
  let t : FileTree := .empty (Path.parse here).parts
  let t ← below t here
  let t ← below t (absolute here a.root)
  let t ← match a.settingsFile with
    | some file => alone t (absolute here file.render)
    | none => pure t
  match a.outputFile with
  | some file => do
    let t ← alone t (absolute here file.parent.render)
    alone t (absolute here file.render)
  | none => pure t

/-- Writes the files that a run has changed. -/
def commit (before after : FileTree) : IO Unit := do
  for (l, e) in after.entries do
    match e with
    | .file octets =>
      if before.entryAt? l ≠ some e then
        IO.FS.writeBinFile (Path.ofLocation l).render ⟨(octets.map UInt8.ofNat).toArray⟩
    | _ => pure ()

end CrateAtlas.Picture

open CrateAtlas in
/-- Runs the program. -/
def main (args : List String) : IO UInt32 := do
  let here := (← IO.currentDir).toString
  let t ← match Arguments.parse args with
    | .ok a => Picture.take here a
    | .error _ => pure (.empty (Path.parse here).parts)
  let o := run Rust.parse? Yaml.read t args
  Picture.commit t o.tree
  (← IO.getStdout).putStr o.output
  (← IO.getStderr).putStr o.errorText
  match o.status with
  | .ok n => return n.toUInt32
  | .error f =>
    (← IO.getStderr).putStrLn f.message
    return 1
