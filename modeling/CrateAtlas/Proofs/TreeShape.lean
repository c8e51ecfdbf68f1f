import CrateAtlas.Workspace

/-!
# What does not depend on the contents of files

Two file trees have the same *shape* if they differ in the octets of files alone.  Following a path,
listing a directory and searching by pattern only look at the shape of a tree, and so does the list
of the members of a workspace (`FileTree.SameShape.members_eq`).

The octets of a file matter to those who read it, and to nobody else: when other octets are put into
one file, every path that leads elsewhere is read as before (`FileTree.read_put`).
-/

set_option autoImplicit false

namespace CrateAtlas

namespace FileTree

/-- The second tree differs from the first one in the octets of files alone. -/
structure SameShape (t u : FileTree) : Prop where
  here : u.here = t.here
  denied : u.denied = t.denied
  locations : u.entries.map Prod.fst = t.entries.map Prod.fst
  entry : ∀ l, u.entryAt? l = t.entryAt? l ∨
    ∃ octets octets', t.entryAt? l = some (.file octets) ∧ u.entryAt? l = some (.file octets')

namespace SameShape

variable {t u : FileTree} (h : SameShape t u)

include h

/-! ## Following paths -/

theorem denies_eq (l : Location) (a : Access) : u.denies l a = t.denies l a := by
  rw [denies, denies, h.denied]

theorem linkAt?_eq (l : Location) : u.linkAt? l = t.linkAt? l := by
  rw [linkAt?, linkAt?]
  rcases h.entry l with he | ⟨octets, octets', he, he'⟩
  · rw [he]
  · rw [he, he']

theorem barrier?_eq (l : Location) : u.barrier? l = t.barrier? l := by
  rw [barrier?, barrier?]
  simp only [h.denies_eq]
  rcases h.entry l with he | ⟨octets, octets', he, he'⟩
  · rw [he]
  · rw [he, he']

theorem walk_eq (links : Nat) (parts : List String) (l : Location) :
    u.walk links parts l = t.walk links parts l := by
  fun_induction t.walk links parts l <;> rw [walk] <;> simp_all [h.barrier?_eq, h.linkAt?_eq]

theorem trail_eq (p : Path) : u.trail p = t.trail p := by rw [trail, trail, h.here]

theorem locate_eq (p : Path) : u.locate p = t.locate p := by
  rw [locate, locate, h.walk_eq, h.trail_eq]

theorem isOpen_eq (l : Location) : u.isOpen l = t.isOpen l := by
  simp only [isOpen, h.barrier?_eq]

theorem linkSeen?_eq (l : Location) : u.linkSeen? l = t.linkSeen? l := by
  rw [linkSeen?, linkSeen?, h.isOpen_eq, h.linkAt?_eq]

theorem links_eq : u.links = t.links := by
  simp only [links, h.locations, h.linkAt?_eq]

theorem follow_eq (idle : List Location) (parts : List String) (l : Location) :
    u.follow idle parts l = t.follow idle parts l := by
  fun_induction t.follow idle parts l <;> rw [follow] <;> simp_all [h.linkSeen?_eq]

theorem target_eq (p : Path) : u.target p = t.target p := by
  rw [target, target, h.links_eq, h.trail_eq, h.follow_eq]

theorem resolve_eq (p : Path) : u.resolve p = t.resolve p := by
  rw [resolve, resolve, h.target_eq]

theorem canonical_eq (p : Path) : u.canonical p = t.canonical p := by
  simp only [canonical, loops, h.resolve_eq, h.locate_eq]

/-! ## Asking about paths -/

theorem status?_eq (p : Path) : u.status? p = t.status? p ∨
    ∃ octets octets', t.status? p = some (.file octets) ∧ u.status? p = some (.file octets') := by
  simp only [status?, h.locate_eq]
  cases p.hasNull with
  | true => exact .inl rfl
  | false =>
    cases t.locate p with
    | error fault => exact .inl rfl
    | ok l => exact h.entry l

theorem isFile_eq (p : Path) : u.isFile p = t.isFile p := by
  rw [isFile, isFile]
  rcases h.status?_eq p with hs | ⟨octets, octets', hs, hs'⟩
  · rw [hs]
  · rw [hs, hs']

theorem isDirectory_eq (p : Path) : u.isDirectory p = t.isDirectory p := by
  rw [isDirectory, isDirectory]
  rcases h.status?_eq p with hs | ⟨octets, octets', hs, hs'⟩
  · rw [hs]
  · rw [hs, hs']

theorem isSome_status?_eq (p : Path) : (u.status? p).isSome = (t.status? p).isSome := by
  rcases h.status?_eq p with hs | ⟨octets, octets', hs, hs'⟩
  · rw [hs]
  · rw [hs, hs']
    rfl

theorem obstacle?_eq (p : Path) : u.obstacle? p = t.obstacle? p := by
  rw [obstacle?, obstacle?, h.locate_eq]

theorem probe_isFile_eq (p : Path) : u.probe u.isFile p = t.probe t.isFile p := by
  rw [probe, probe, h.obstacle?_eq, h.isFile_eq]

theorem probe_isDirectory_eq (p : Path) :
    u.probe u.isDirectory p = t.probe t.isDirectory p := by
  rw [probe, probe, h.obstacle?_eq, h.isDirectory_eq]

theorem firstFile?_eq (ps : List Path) : u.firstFile? ps = t.firstFile? ps := by
  induction ps with
  | nil => rfl
  | cons p rest ih => simp only [firstFile?, h.probe_isFile_eq, ih]

theorem isFirstBlocked_iff {ps : List Path} {fault : AccessFault} {p : Path} :
    u.IsFirstBlocked ps fault p ↔ t.IsFirstBlocked ps fault p := by
  simp only [IsFirstBlocked, IsAbsent, h.obstacle?_eq, h.isFile_eq]

/-! ## Searching -/

theorem names_eq (l : Location) : u.names l = t.names l := by
  have hnames : ∀ x : FileTree, x.names l =
      (x.entries.map Prod.fst).filterMap fun m =>
        m.getLast?.bind fun name => if m.dropLast = l then some name else none := by
    intro x
    rw [names, List.filterMap_map]
    congr 1
    funext ⟨m, e⟩
    cases h : m.getLast? <;> simp [h]
  rw [hnames, hnames, h.locations]

theorem list_eq (p : Path) : u.list p = t.list p := by
  rw [list, list, h.locate_eq]
  cases t.locate p with
  | error fault => rfl
  | ok l =>
    simp only [h.denies_eq, h.names_eq]
    rcases h.entry l with he | ⟨octets, octets', he, he'⟩
    · rw [he]
    · rw [he, he']

theorem forNames_eq (p : Path) (find : String → Found) :
    u.forNames p find = t.forNames p find := by
  rw [forNames, forNames, h.list_eq]

theorem ifFound_eq (p : Path) (answer : Bool) (find : Found) :
    u.ifFound p answer find = t.ifFound p answer find := by
  rw [ifFound, ifFound, h.obstacle?_eq]

theorem entryIn?_eq (p : Path) (name : String) : u.entryIn? p name = t.entryIn? p name ∨
    ∃ octets octets', t.entryIn? p name = some (.file octets) ∧
      u.entryIn? p name = some (.file octets') := by
  rw [entryIn?, entryIn?, h.locate_eq]
  cases t.locate p with
  | error fault => exact .inl rfl
  | ok l => exact h.entry _

theorem directories_eq (depth : Nat) (p : Path) :
    u.directories depth p = t.directories depth p := by
  induction depth generalizing p with
  | zero => rfl
  | succ depth ih =>
    have hown : ∀ name, u.entryIn? p name = some .directory ↔
        t.entryIn? p name = some .directory := by
      intro name
      rcases h.entryIn?_eq p name with he | ⟨octets, octets', he, he'⟩
      · rw [he]
      · simp [he, he']
    simp only [directories, h.forNames_eq, hown, ih]

theorem ifDirectory_eq (p : Path) (name : String) (find : Found) :
    u.ifDirectory p name find = t.ifDirectory p name find := by
  rw [ifDirectory, ifDirectory]
  simp only [h.ifFound_eq, h.isDirectory_eq]
  rcases h.entryIn?_eq p name with he | ⟨octets, octets', he, he'⟩
  · rw [he]
  · rw [he, he']

theorem height_eq : u.height = t.height := by
  have hheight : ∀ x : FileTree,
      x.height = (x.entries.map Prod.fst).foldl (fun n l => max n l.length) 0 := by
    intro x
    rw [height, List.foldl_map]
  rw [hheight, hheight, h.locations]

theorem select_eq (parts : List PatternPart) (p : Path) : u.select parts p = t.select parts p := by
  induction parts generalizing p with
  | nil => rfl
  | cons part rest ih =>
    cases part with
    | stop => rfl
    | name text =>
      simp only [select, h.ifFound_eq, h.isSome_status?_eq, h.isDirectory_eq, ih]
    | wildcard pattern => simp only [select, h.forNames_eq, h.ifDirectory_eq, ih]
    | descend =>
      have hrest : u.select rest = t.select rest := funext ih
      simp only [select, h.height_eq, h.directories_eq, hrest]

theorem search_eq (directory : Path) (pattern : String) :
    u.search directory pattern = t.search directory pattern := by
  simp only [search, h.ifFound_eq, h.isDirectory_eq, h.select_eq]

/-! ## Members of a workspace -/

theorem membersAmong_eq (found : List Path) :
    Workspace.membersAmong u found = Workspace.membersAmong t found := by
  induction found with
  | nil => rfl
  | cons p rest ih =>
    simp only [Workspace.membersAmong, Workspace.isMember, h.probe_isDirectory_eq,
      h.probe_isFile_eq, h.canonical_eq, ih]

theorem expand_eq (root : Path) (pattern : String) :
    Workspace.expand u root pattern = Workspace.expand t root pattern := by
  simp only [Workspace.expand, Workspace.eligible, h.search_eq, h.membersAmong_eq]

theorem collect_eq (root : Path) (excluded : List Path) (entries : List Value) :
    Workspace.collect u root excluded entries = Workspace.collect t root excluded entries := by
  have hmatching : ∀ entry, Workspace.matching u root entry = Workspace.matching t root entry := by
    intro entry
    cases entry <;> simp only [Workspace.matching, h.expand_eq, h.canonical_eq]
  induction entries with
  | nil => rfl
  | cons entry rest ih => simp only [Workspace.collect, hmatching, ih]

theorem members_eq (root : Path) (workspace : Value) :
    Workspace.members u root workspace = Workspace.members t root workspace := by
  have hcanonical : u.canonical = t.canonical := funext h.canonical_eq
  simp only [Workspace.members, Workspace.excluded, h.collect_eq, hcanonical]

theorem packageUnit_eq (directory manifestPath : Path) (manifest : Manifest)
    (package : List (Value × Value)) :
    packageUnit u directory manifestPath manifest package
      = packageUnit t directory manifestPath manifest package := by
  simp only [packageUnit, h.firstFile?_eq]

end SameShape

/-! ## Other octets in one file -/

variable {t : FileTree} {l : Location}

theorem lookup_map_of_ne {m : Location} (hm : m ≠ l) (entries : List (Location × Entry))
    (e : Entry) :
    (entries.map fun (k, f) => if k = l then (k, e) else (k, f)).lookup m = entries.lookup m := by
  induction entries with
  | nil => rfl
  | cons x rest ih =>
    obtain ⟨k, f⟩ := x
    by_cases hk : k = l
    · have hmk : (m == k) = false := by simpa [hk] using hm
      simp only [List.map_cons, if_pos hk, List.lookup_cons, hmk, ih]
    · simp only [List.map_cons, if_neg hk, List.lookup_cons, ih]

theorem lookup_map_self {entries : List (Location × Entry)}
    (h : (entries.any fun (m, _) => m = l) = true) (e : Entry) :
    (entries.map fun (k, f) => if k = l then (k, e) else (k, f)).lookup l = some e := by
  induction entries with
  | nil => simp at h
  | cons x rest ih =>
    obtain ⟨k, f⟩ := x
    by_cases hk : k = l
    · simp [hk]
    · have hlk : (l == k) = false := by simpa using Ne.symm hk
      simp only [List.map_cons, if_neg hk, List.lookup_cons, hlk]
      exact ih (by simpa [hk] using h)

/-- **Putting an entry** puts it at its location. -/
theorem entryAt?_put_self (h : l ≠ []) (e : Entry) : (t.put l e).entryAt? l = some e := by
  rw [entryAt?, if_neg (by simpa using h), put]
  split
  · rename_i hany
    exact lookup_map_self hany e
  · rename_i hany
    have hnone : t.entries.lookup l = none := by
      refine List.lookup_eq_none_iff.2 fun x hx => ?_
      have hne : l ≠ x.1 := fun hl => hany (List.any_eq_true.2 ⟨x, hx, by simp [hl]⟩)
      simpa using hne
    rw [List.lookup_append, hnone]
    simp

/-- Putting an entry changes nothing elsewhere. -/
theorem entryAt?_put_of_ne {m : Location} (hm : m ≠ l) (e : Entry) :
    (t.put l e).entryAt? m = t.entryAt? m := by
  rw [entryAt?, entryAt?, put]
  split
  · rfl
  · split
    · exact lookup_map_of_ne hm t.entries e
    · have hml : (m == l) = false := by simpa using hm
      simp [List.lookup_append, List.lookup_cons, hml]

theorem denied_put (l : Location) (e : Entry) : (t.put l e).denied = t.denied := by
  rw [put]
  split <;> rfl

theorem ne_nil_of_file {octets : List Nat} (h : t.entryAt? l = some (.file octets)) : l ≠ [] := by
  rintro rfl
  cases h

/-- A file can be written at a path, which leads to a location: nothing is in the way, no directory
is there, and the file, or the directory that it is new in, may be changed. -/
structure Opens (t : FileTree) (p : Path) (l : Location) : Prop where
  locate : t.locate p = .ok l
  entry : t.entryAt? l ≠ some .directory
  allowed : t.denies (if (t.entryAt? l).isSome then l else l.dropLast) .write = false

theorem Opens.ne_nil {p : Path} (h : t.Opens p l) : l ≠ [] := by
  rintro rfl
  exact h.entry rfl

/-- **A file is written** where its path leads. -/
theorem Opens.write_eq {p : Path} (h : t.Opens p l) (octets : List Nat) :
    t.write p octets = .ok (t.put l (.file octets)) := by
  have hallowed := h.allowed
  rw [write, h.locate]
  dsimp only
  split
  · exact absurd ‹_› h.entry
  · rename_i he
    rw [he] at hallowed
    exact if_neg (Bool.eq_false_iff.1 hallowed)
  · rename_i he
    rw [he] at hallowed
    exact if_neg (Bool.eq_false_iff.1 hallowed)

/-- What was written could be. -/
theorem opens_of_write {p : Path} {octets : List Nat} {u : FileTree}
    (h : t.write p octets = .ok u) : ∃ l, t.Opens p l := by
  rw [write] at h
  split at h
  · cases h
  · rename_i l hl
    refine ⟨l, hl, ?_, ?_⟩
    · intro hd
      simp [hd] at h
    · split at h
      · cases h
      · rename_i he
        have hallowed : ¬t.denies l .write = true := fun hdenied => by simp [hdenied] at h
        simpa [he] using hallowed
      · rename_i he
        have hallowed : ¬t.denies l.dropLast .write = true := fun hdenied => by
          simp [hdenied] at h
        simpa [he] using hallowed

/-- Other octets in a file leave the shape of the tree. -/
theorem sameShape_put {old : List Nat} (h : t.entryAt? l = some (.file old)) (octets : List Nat) :
    SameShape t (t.put l (.file octets)) where
  here := by
    rw [put]
    split <;> rfl
  denied := denied_put l _
  locations := by
    have hany : (t.entries.any fun (m, _) => m = l) = true := by
      rw [entryAt?, if_neg (by simpa using ne_nil_of_file h)] at h
      exact List.any_eq_true.2 ⟨_, mem_of_lookup h, by simp⟩
    rw [put, if_pos hany, List.map_map]
    refine List.map_congr_left fun x _ => ?_
    obtain ⟨m, f⟩ := x
    by_cases hm : m = l <;> simp [hm]
  entry := by
    intro m
    by_cases hm : m = l
    · rw [hm]
      exact .inr ⟨old, octets, h, entryAt?_put_self (ne_nil_of_file h) _⟩
    · exact .inl (entryAt?_put_of_ne hm _)

/-- What leads elsewhere is read as before. -/
theorem read_put {old octets : List Nat} (h : t.entryAt? l = some (.file old)) {p : Path}
    (hp : t.locate p ≠ .ok l) : (t.put l (.file octets)).read p = t.read p := by
  have hshape := sameShape_put h octets
  rw [read, read, hshape.locate_eq]
  cases hm : t.locate p with
  | error fault => rfl
  | ok m =>
    have hne : m ≠ l := fun hml => hp (hml ▸ hm)
    simp only [entryAt?_put_of_ne hne, hshape.denies_eq]

end FileTree

end CrateAtlas
