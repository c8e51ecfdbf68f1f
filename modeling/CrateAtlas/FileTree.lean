import CrateAtlas.Path

/-!
# File trees

A file tree is all that a run can see of a file system: files with their octets, directories and
symbolic links, each at its *location*, the list of names from the top, and what the run may not do
where.

* `FileTree.walk` goes from directory to directory, and through links, as a program does that opens
  a path.  Every step has its own way to fail: the directory is not there, or is none, or may not be
  searched; the name is too long; there are too many links.
* `FileTree.locate` is the walk along a path, `FileTree.status?` is what is found at its end, and
  `FileTree.obstacle?` is what keeps a program from finding out.  `FileTree.read` gives the octets
  of a file, or why it cannot be read; `FileTree.write` gives the tree with the file in it.

Entries are looked up by their location alone: a tree may have an entry with nothing above it, which
no path leads to.  A relative path is followed as the absolute one that it stands for.  Nothing else
happens to a tree while it is read.  Devices, and limits on the size of files and on the number of
open ones, are left out.
-/

set_option autoImplicit false

namespace CrateAtlas

/-- The names from the top of the tree down to an entry. -/
abbrev Location := List String

/-- The path of a location. -/
def Path.ofLocation (l : Location) : Path := ⟨.top, l⟩

/-- What is found at a location. -/
inductive Entry where
  | file (octets : List Nat)
  | directory
  | link (target : String)
deriving DecidableEq, Repr, Inhabited

/-- What a run can do with an entry.  To look up a name in a directory is to search it. -/
inductive Access where
  | read
  | write
  | search
deriving DecidableEq, Repr

/-- Why a path cannot be opened. -/
inductive AccessFault where
  | missing
  | denied
  | notDirectory
  | isDirectory
  | nameTooLong
  | tooManyLinks
deriving DecidableEq, Repr

/-- The words for why a path cannot be opened. -/
def AccessFault.message : AccessFault → String
  | .missing => "No such file or directory"
  | .denied => "Permission denied"
  | .notDirectory => "Not a directory"
  | .isDirectory => "Is a directory"
  | .nameTooLong => "File name too long"
  | .tooManyLinks => "Too many levels of symbolic links"

/-- The number of the fault in the tables of the system. -/
def AccessFault.number : AccessFault → Nat
  | .missing => 2
  | .denied => 13
  | .notDirectory => 20
  | .isDirectory => 21
  | .nameTooLong => 36
  | .tooManyLinks => 40

/-- Whether a fault leaves open what is to be found at the end of a path. -/
def AccessFault.conceals : AccessFault → Bool
  | .denied | .nameTooLong => true
  | _ => false

/-- A file system as far as a run can see it. -/
structure FileTree where
  entries : List (Location × Entry)
  /-- The working directory. -/
  here : Location
  /-- What the run may not do, and where. -/
  denied : List (Location × Access) := []
deriving Inhabited

namespace FileTree

/-- The tree with nothing in it but the working directory. -/
def empty (here : Location) : FileTree where
  entries := (List.range here.length).map fun n => (here.take (n + 1), .directory)
  here := here

/-- What is found at a location. -/
def entryAt? (t : FileTree) (l : Location) : Option Entry :=
  if l.isEmpty then some .directory else t.entries.lookup l

/-- The target of the link at a location, if there is one. -/
def linkAt? (t : FileTree) (l : Location) : Option String :=
  match t.entryAt? l with
  | some (.link target) => some target
  | _ => none

/-- Whether something may not be done at a location. -/
def denies (t : FileTree) (l : Location) (a : Access) : Bool := t.denied.contains (l, a)

/-! ## Following paths -/

/-- What stops a program from going on below a location. -/
def barrier? (t : FileTree) (l : Location) : Option AccessFault :=
  match t.entryAt? l with
  | some .directory => if t.denies l .search then some .denied else none
  | some _ => some .notDirectory
  | none => some .missing

/-- The number of octets that a text takes up. -/
def size (text : String) : Nat := text.toList.foldl (fun n c => n + c.utf8Size) 0

/-- The longest name that an entry can have, in octets. -/
def nameLimit : Nat := 255

/-- The longest text that a path can have, in octets. -/
def pathLimit : Nat := 4095

/-- More links than a path may lead through. -/
def linkLimit : Nat := 40

/-- Whether a name is short enough to be looked up. -/
def fits (name : String) : Bool := size name ≤ nameLimit

/-- The components of the target of a link.  A slash at the end asks for a directory, as a single
dot does. -/
def targetParts (target : String) : List String :=
  Path.components target ++ (if target.toList.getLast? = some '/' then ["."] else [])

/-- Where the components of a target start, for a link in the given directory. -/
def targetBase (target : String) (l : Location) : Location :=
  if Path.anchorOf target = .here then l else []

/-- Follows components from a location, through no more than the given number of links. -/
def walk (t : FileTree) (links : Nat) (parts : List String) (l : Location) :
    Except AccessFault Location :=
  match parts with
  | [] => .ok l
  | part :: rest =>
    match t.barrier? l with
    | some fault => .error fault
    | none =>
      if part = "." then t.walk links rest l
      else if part = ".." then t.walk links rest l.dropLast
      else if fits part then
        match t.linkAt? (l ++ [part]) with
        | none => t.walk links rest (l ++ [part])
        | some target =>
          match links with
          | 0 => .error .tooManyLinks
          | links + 1 => t.walk links (targetParts target ++ rest) (targetBase target l)
      else .error .nameTooLong
termination_by (links, parts.length)

/-- The components of a path from the top. -/
def trail (t : FileTree) (p : Path) : List String :=
  if p.isAbsolute then p.parts else t.here ++ p.parts

/-- Whether the text of a path is too long to be looked up. -/
def isOverlong (p : Path) : Bool := pathLimit < size p.render

/-- Where a path leads, or what is in the way of opening it.  What is to be found at the location
need not be there. -/
def locate (t : FileTree) (p : Path) : Except AccessFault Location :=
  bif isOverlong p then .error .nameTooLong else t.walk linkLimit (t.trail p) []

/-- What a path leads to, if it can be opened. -/
def status? (t : FileTree) (p : Path) : Option Entry :=
  bif p.hasNull then none
  else
    match t.locate p with
    | .ok l => t.entryAt? l
    | .error _ => none

/-- Whether a path leads to a file. -/
def isFile (t : FileTree) (p : Path) : Bool :=
  match t.status? p with
  | some (.file _) => true
  | _ => false

/-- Whether a path leads to a directory. -/
def isDirectory (t : FileTree) (p : Path) : Bool :=
  match t.status? p with
  | some .directory => true
  | _ => false

/-- What keeps a program from finding out what a path leads to.  A path that leads nowhere, or round
in circles, is known to lead to nothing. -/
def obstacle? (t : FileTree) (p : Path) : Option AccessFault :=
  bif p.hasNull then none
  else
    match t.locate p with
    | .ok _ => none
    | .error fault => if fault.conceals then some fault else none

/-- The octets of the file that a path leads to. -/
def read (t : FileTree) (p : Path) : Except AccessFault (List Nat) :=
  match t.locate p with
  | .error fault => .error fault
  | .ok l =>
    match t.entryAt? l with
    | none => .error .missing
    | some e =>
      if t.denies l .read then .error .denied
      else
        match e with
        | .file octets => .ok octets
        | .directory => .error .isDirectory
        | .link _ => .error .missing

/-- The locations of the files. -/
def files (t : FileTree) : List Location :=
  t.entries.filterMap fun (l, e) =>
    match e with
    | .file _ => some l
    | _ => none

theorem mem_of_lookup {l : Location} {e : Entry} {entries : List (Location × Entry)}
    (h : entries.lookup l = some e) : (l, e) ∈ entries := by
  induction entries with
  | nil => simp at h
  | cons x xs ih =>
    obtain ⟨m, f⟩ := x
    simp only [List.lookup_cons] at h
    split at h
    · rename_i hm
      simp_all
    · exact List.mem_cons_of_mem _ (ih h)

/-- What is found below the top is one of the entries. -/
theorem mem_entries_of_entryAt? {t : FileTree} {l : Location} {e : Entry}
    (h : t.entryAt? l = some e) (he : e ≠ .directory) : (l, e) ∈ t.entries := by
  unfold entryAt? at h
  split at h
  · exact absurd (Option.some.inj h).symm he
  · exact mem_of_lookup h

/-- A location with a file in it is one of the locations of the files. -/
theorem mem_files_of_entryAt? {t : FileTree} {l : Location} {octets : List Nat}
    (h : t.entryAt? l = some (.file octets)) : l ∈ t.files :=
  List.mem_filterMap.2 ⟨_, mem_entries_of_entryAt? h (by simp), rfl⟩

/-- What can be read lies at a location with a file in it. -/
theorem read_eq_ok {t : FileTree} {p : Path} {octets : List Nat} (h : t.read p = .ok octets) :
    ∃ l, t.locate p = .ok l ∧ t.entryAt? l = some (.file octets) ∧ t.denies l .read = false := by
  unfold read at h
  split at h
  · simp at h
  · rename_i l hl
    split at h
    · simp at h
    · rename_i e he
      split at h
      · simp at h
      · rename_i hdenied
        split at h
        · cases h
          exact ⟨l, hl, he, by simpa using hdenied⟩
        · simp at h
        · simp at h

/-- The names of what lies directly below a location. -/
def names (t : FileTree) (l : Location) : List String :=
  t.entries.filterMap fun (m, _) =>
    match m.getLast? with
    | some name => if m.dropLast = l then some name else none
    | none => none

/-! ## Changing a tree -/

/-- Puts an entry at a location, in the place of what was there. -/
def put (t : FileTree) (l : Location) (e : Entry) : FileTree :=
  if t.entries.any fun (m, _) => m = l then
    { t with entries := t.entries.map fun (m, f) => if m = l then (m, e) else (m, f) }
  else { t with entries := t.entries ++ [(l, e)] }

/-- Makes a directory at a location, and all directories above it, where nothing is yet. -/
def makeDirectories (t : FileTree) (l : Location) : FileTree :=
  (List.range l.length).foldl (fun t n =>
    let m := l.take (n + 1)
    if (t.entryAt? m).isSome then t else t.put m .directory) t

/-- Writes a file at a path.  The directory above it has to be there, and for a new file it has to
be one that may be changed. -/
def write (t : FileTree) (p : Path) (octets : List Nat) : Except AccessFault FileTree :=
  match t.locate p with
  | .error fault => .error fault
  | .ok l =>
    match t.entryAt? l with
    | some .directory => .error .isDirectory
    | some _ => if t.denies l .write then .error .denied else .ok (t.put l (.file octets))
    | none =>
      if t.denies l.dropLast .write then .error .denied else .ok (t.put l (.file octets))

end FileTree

end CrateAtlas
