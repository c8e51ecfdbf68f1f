import Mathlib.Data.List.Forall2
import Mathlib.Data.List.Nodup
import CrateAtlas.Proofs.BrokenMember

/-!
# The list of members

The members of a workspace are named outright or found by patterns, and one directory may be named
in several ways: by two entries, by a pattern and an entry, through a link, or as the directory of
the workspace.  All of this is about resolved paths, so none of it depends on how directories are
searched.

* `discoverBy` — the crates found at a directory, with any way to search in the place of the search
  in the tree.  With the latter it is `discover` (`discoverBy_search`).
* `StandsFor` — the directories that an entry stands for.  The members are these, without the
  directories that are left out (`membersBy_eq`).
* `memberList` — the members that are enumerated, each once.  An enumeration that looks at what it
  has seen enumerates the first occurrences (`unseen_eq`).
* `members_listed_once` — **a workspace neither loses nor repeats a member**.
-/

set_option autoImplicit false

namespace CrateAtlas

/-- A computation that goes on has a result if both of its parts do. -/
theorem Logged.result_andThen_eq_ok {α β : Type} {x : Logged α} {f : α → Logged β} {b : β}
    (h : (x.andThen f).result = .ok b) : ∃ a, x.result = .ok a ∧ (f a).result = .ok b := by
  rw [Logged.result_andThen] at h
  split at h
  · cases h
  · exact ⟨_, ‹_›, h⟩

namespace Workspace

variable {t : FileTree}

/-! ## Other ways to search -/

/-- A way to search directories: what is found in one for a pattern. -/
abbrev Search := Path → String → Except PatternFault Found

/-- `matching`, with another way to search. -/
def matchingBy (search : Search) (t : FileTree) (root : Path) : Value → Except Failure (List Path)
  | .text entry =>
    if Text.hasWildcard entry then
      match search root entry with
      | .error fault => .error (.pattern fault)
      | .ok found => eligible t found
    else (t.canonical (root.join entry)).map fun directory => [directory]
  | _ => .ok []

/-- `collect`, with another way to search. -/
def collectBy (search : Search) (t : FileTree) (root : Path) (excluded : List Path) :
    List Value → Members
  | [] => ⟨[], none⟩
  | entry :: rest =>
    match matchingBy search t root entry with
    | .error f => ⟨[], some f⟩
    | .ok found =>
      let others := collectBy search t root excluded rest
      ⟨(found.filter fun p => !excluded.contains p) ++ others.directories, others.failure⟩

/-- `members`, with another way to search. -/
def membersBy (search : Search) (t : FileTree) (root : Path) (entries : List (Value × Value)) :
    Members :=
  match excluded t root entries with
  | .error f => ⟨[], some f⟩
  | .ok excluded =>
    match listed entries "members" with
    | .error f => ⟨[], some f⟩
    | .ok patterns => collectBy search t root excluded patterns

/-- `withMembers`, with another way to search. -/
def withMembersBy (search : Search) (t : FileTree) (root : Path) (own : List CrateUnit)
    (workspace : Option Value) : Logged Enumeration :=
  match workspace with
  | some (.map entries) =>
    let found := membersBy search t root entries
    (enumerate t found.directories (own.map CrateUnit.directory) ⟨own, []⟩).andThen fun e =>
      match found.failure with
      | some f => .fail f
      | none => .done e
  | _ => .done ⟨own, []⟩

/-- `discover`, with another way to search. -/
def discoverBy (search : Search) (t : FileTree) (directory : Path) : Logged Enumeration :=
  (Logged.ofExcept (t.canonical directory)).andThen fun root =>
  let manifestPath := root.join manifestName
  (Logged.ofExcept (t.probe t.isFile manifestPath)).andThen fun hasManifest =>
  if hasManifest then
    (Logged.ofExcept (Manifest.load t manifestPath)).andThen fun manifest =>
    (Logged.ofExcept (ownUnit t root manifestPath manifest)).andThen fun own =>
    (withMembersBy search t root own (Value.lookup? manifest "workspace")).andThen fun e =>
      if e.units.isEmpty && e.errors.isEmpty then
        .fail (enumerationFailure manifestPath .nothingDeclared)
      else .done e
  else
    (Logged.ofExcept (Placement.crateRoot? t root)).andThen fun rootFile =>
    match rootFile with
    | some rootFile => .done ⟨[⟨root.name, root, rootFile⟩], []⟩
    | none => .fail (enumerationFailure root .noCrate)

theorem matchingBy_search (root : Path) (entry : Value) :
    matchingBy t.search t root entry = matching t root entry := by
  cases entry <;> rfl

theorem collectBy_search (root : Path) (excluded : List Path) (items : List Value) :
    collectBy t.search t root excluded items = collect t root excluded items := by
  induction items with
  | nil => rfl
  | cons entry rest ih =>
    rw [collectBy, matchingBy_search, ih]
    rfl

theorem membersBy_search (root : Path) (entries : List (Value × Value)) :
    membersBy t.search t root entries = members t root (.map entries) := by
  simp only [membersBy, collectBy_search]
  rfl

theorem withMembersBy_search (root : Path) (own : List CrateUnit) (workspace : Option Value) :
    withMembersBy t.search t root own workspace = withMembers t root own workspace := by
  simp only [withMembersBy, membersBy_search]
  rfl

/-- The search of the tree is one of them. -/
theorem discoverBy_search (t : FileTree) (directory : Path) :
    discoverBy t.search t directory = discover t directory := by
  simp only [discoverBy, withMembersBy_search]
  rfl

/-! ## What the entries stand for -/

section Entries

variable {search : Search} {root : Path} {entries : List (Value × Value)}

/-- The directories that an entry of the list of members stands for. -/
inductive StandsFor (search : Search) (t : FileTree) (root : Path) : String → Path → Prop
  | plain {entry : String} (hw : Text.hasWildcard entry = false) :
    StandsFor search t root entry (t.resolve (root.join entry))
  | found {entry : String} {found : Found} {p : Path} (hw : Text.hasWildcard entry = true)
    (hs : search root entry = .ok found) (hp : p ∈ found.paths) (hd : t.isDirectory p = true)
    (ht : p.name ∉ toolDirectories) (hf : t.isFile (p.join manifestName) = true) :
    StandsFor search t root entry (t.resolve p)

theorem mem_eligible {found : Found} {directories : List Path} {d : Path}
    (h : eligible t found = .ok directories) :
    d ∈ directories ↔ ∃ p ∈ found.paths, t.isDirectory p = true ∧ p.name ∉ toolDirectories ∧
      t.isFile (p.join manifestName) = true ∧ t.resolve p = d := by
  rcases eligible_cases t found with ⟨f, -, hf⟩ | ⟨-, hok⟩
  · cases h.symm.trans hf
  · cases h.symm.trans hok
    simp [leadsToMember, Path.sort, and_assoc]

theorem map_canonical_eq_ok {p : Path} {found : List Path}
    (h : ((t.canonical p).map fun directory => [directory]) = .ok found) :
    found = [t.resolve p] := by
  cases hp : t.canonical p with
  | error f =>
    rw [hp] at h
    cases h
  | ok directory =>
    rw [hp] at h
    rw [← FileTree.canonical_eq_ok hp]
    exact (Except.ok.inj h).symm

theorem mem_matchingBy {entry : String} {found : List Path} {d : Path}
    (h : matchingBy search t root (.text entry) = .ok found) :
    d ∈ found ↔ StandsFor search t root entry d := by
  rw [matchingBy] at h
  cases hw : Text.hasWildcard entry with
  | true =>
    rw [if_pos hw] at h
    cases hs : search root entry with
    | error fault =>
      rw [hs] at h
      cases h
    | ok paths =>
      rw [hs] at h
      rw [mem_eligible h]
      constructor
      · rintro ⟨p, hp, hd, ht, hf, rfl⟩
        exact .found hw hs hp hd ht hf
      · intro hd
        cases hd with
        | plain hplain => simp [hw] at hplain
        | found _ hs' hp hd ht hf =>
          cases hs.symm.trans hs'
          exact ⟨_, hp, hd, ht, hf, rfl⟩
  | false =>
    rw [if_neg (by simp [hw])] at h
    rw [map_canonical_eq_ok h, List.mem_singleton]
    constructor
    · rintro rfl
      exact .plain hw
    · intro hd
      cases hd with
      | plain _ => rfl
      | found hw' _ _ _ _ _ => simp [hw] at hw'

/-- **No member is lost**: if nothing stops the collection, it has what the entries stand for. -/
theorem mem_collectBy {excluded : List Path} {items : List Value} {d : Path}
    (h : (collectBy search t root excluded items).failure = none) :
    d ∈ (collectBy search t root excluded items).directories ↔
      (∃ entry, .text entry ∈ items ∧ StandsFor search t root entry d) ∧ d ∉ excluded := by
  induction items with
  | nil => simp [collectBy]
  | cons item rest ih =>
    rw [collectBy] at h ⊢
    cases hm : matchingBy search t root item with
    | error f =>
      rw [hm] at h
      cases h
    | ok found =>
      rw [hm] at h
      have hfound : d ∈ found ↔ ∃ entry, .text entry = item ∧ StandsFor search t root entry d := by
        cases item with
        | text entry => simp [mem_matchingBy hm]
        | _ =>
          cases hm
          simp
      simp only [List.mem_append, List.mem_filter, ih h, hfound, List.mem_cons, or_and_right,
        exists_or]
      simp

theorem forall₂_of_mapM {α β ε : Type} {f : α → Except ε β} {xs : List α} {ys : List β}
    (h : xs.mapM f = .ok ys) : List.Forall₂ (fun x y => f x = .ok y) xs ys := by
  induction xs generalizing ys with
  | nil =>
    cases h
    exact .nil
  | cons x xs ih =>
    rw [List.mapM_cons] at h
    cases hx : f x with
    | error e =>
      rw [hx] at h
      cases h
    | ok y =>
      cases hxs : xs.mapM f with
      | error e =>
        rw [hx, hxs] at h
        cases h
      | ok zs =>
        rw [hx, hxs] at h
        cases h
        exact .cons hx (ih hxs)

/-- The entries of the list of exclusions are texts, if all of them can be looked up. -/
theorem excluded_eq_ok {paths : List Path} (h : excluded t root entries = .ok paths) :
    ∃ exclusions : List String, listed entries "exclude" = .ok (exclusions.map .text) ∧
      paths = exclusions.map fun p => t.resolve (root.join p) := by
  rw [excluded] at h
  cases hl : listed entries "exclude" with
  | error f =>
    rw [hl] at h
    cases h
  | ok items =>
    rw [hl] at h
    have hall := forall₂_of_mapM h
    clear h hl
    induction hall with
    | nil => exact ⟨[], rfl, rfl⟩
    | @cons item path items paths hitem _ ih =>
      obtain ⟨exclusions, hitems, rfl⟩ := ih
      obtain ⟨p, rfl, rfl⟩ : ∃ p, item = .text p ∧ path = t.resolve (root.join p) := by
        cases item with
        | text p => exact ⟨p, rfl, FileTree.canonical_eq_ok hitem⟩
        | _ => cases hitem
      rw [Except.ok.inj hitems]
      exact ⟨p :: exclusions, rfl, rfl⟩

/-- What the members are, if nothing stops their enumeration. -/
theorem membersBy_eq (h : (membersBy search t root entries).failure = none) :
    ∃ (exclusions : List String) (items : List Value),
      listed entries "exclude" = .ok (exclusions.map .text) ∧
      listed entries "members" = .ok items ∧
      ∀ d, d ∈ (membersBy search t root entries).directories ↔
        (∃ entry, .text entry ∈ items ∧ StandsFor search t root entry d) ∧
          ∀ p ∈ exclusions, d ≠ t.resolve (root.join p) := by
  rw [membersBy] at h ⊢
  cases hx : excluded t root entries with
  | error f =>
    rw [hx] at h
    cases h
  | ok paths =>
    obtain ⟨exclusions, hexclude, rfl⟩ := excluded_eq_ok hx
    cases hm : listed entries "members" with
    | error f =>
      rw [hx, hm] at h
      cases h
    | ok items =>
      rw [hx, hm] at h
      refine ⟨exclusions, items, hexclude, rfl, fun d => (mem_collectBy h).trans ?_⟩
      simp only [List.mem_map, not_exists, not_and, ne_comm (a := d), ne_eq]

end Entries

/-! ## First occurrences -/

theorem eraseDups_filter (keep : Path → Bool) (ds : List Path) :
    (ds.filter keep).eraseDups = ds.eraseDups.filter keep := by
  -- Erasing the first element leaves a filtered list, so the induction is on the length.
  induction hn : ds.length using Nat.strongRecOn generalizing ds with
  | ind n ih =>
    cases ds with
    | nil => rfl
    | cons d rest =>
      have hlt : (rest.filter fun x => !x == d).length < n := by
        have hle := List.length_filter_le (fun x => !x == d) rest
        rw [← hn, List.length_cons]
        omega
      have hrest := ih _ hlt _ rfl
      rw [List.eraseDups_cons]
      by_cases hd : keep d = true
      · rw [List.filter_cons_of_pos hd, List.filter_cons_of_pos hd, List.eraseDups_cons, ← hrest,
          List.filter_filter, List.filter_filter]
        simp only [Bool.and_comm]
      · rw [List.filter_cons_of_neg hd, List.filter_cons_of_neg hd, ← hrest, List.filter_filter]
        refine congrArg List.eraseDups (List.filter_congr fun x _ => ?_)
        by_cases hx : x = d
        · simp [hx, hd]
        · simp [hx]

/-- **The directories that are met for the first time**, as a list without repetitions. -/
theorem unseen_eq (directories seen : List Path) :
    unseen directories seen = directories.eraseDups.filter fun d => !seen.contains d := by
  fun_induction unseen directories seen with
  | case1 seen => rfl
  | case2 d rest seen hseen ih =>
    rw [ih, List.eraseDups_cons, List.filter_cons_of_neg (by simpa using hseen),
      ← eraseDups_filter, ← eraseDups_filter, List.filter_filter]
    refine congrArg List.eraseDups (List.filter_congr fun x _ => ?_)
    by_cases hx : x = d
    · simp_all
    · simp [hx]
  | case3 d rest seen hseen ih =>
    rw [ih, List.eraseDups_cons, List.filter_cons_of_pos (by simpa using hseen),
      ← eraseDups_filter, ← eraseDups_filter, List.filter_filter]
    refine congrArg (d :: List.eraseDups ·) (List.filter_congr fun x _ => ?_)
    by_cases hx : x = d <;> simp [hx]

/-! ## Directories of crates -/

theorem directory_of_packageUnit {directory manifestPath : Path} {manifest : Manifest}
    {package : List (Value × Value)} {u : CrateUnit}
    (h : packageUnit t directory manifestPath manifest package = .ok u) :
    u.directory = directory := by
  rcases packageUnit_cases t directory manifestPath manifest package with
    ⟨rootFile, -, hu⟩ | ⟨-, hu⟩ | ⟨fault, file, -, hu⟩
  · cases h.symm.trans hu
    rfl
  · cases h.symm.trans hu
  · cases h.symm.trans hu

theorem directory_of_unitIn {directory : Path} {u : CrateUnit} (h : unitIn t directory = .ok u) :
    u.directory = directory := by
  rw [unitIn] at h
  split at h
  · cases h
  · cases h
  · split at h
    · cases h
    · split at h
      · cases h
      · exact directory_of_packageUnit h

/-- A member leads to a crate in its directory or to a diagnostic, if it does not end the
enumeration. -/
theorem outcome_of_legible {directory : Path} (h : ∀ f, ¬BreaksOff t directory f) :
    (∃ u, unitIn t directory = .ok u ∧ u.directory = directory) ∨
      ∃ place fault, unitIn t directory = .error (.diagnostic (.enumeration place fault)) := by
  rcases unitIn_cases t directory with ⟨u, hu⟩ | ⟨place, fault, hu, -⟩ | ⟨f, hf, -⟩
  · exact .inl ⟨u, hu, directory_of_unitIn hu⟩
  · exact .inr ⟨place, fault, hu⟩
  · exact absurd hf (h f)

theorem directories_of_ownUnit {root manifestPath : Path} {manifest : Manifest}
    {own : List CrateUnit} (h : ownUnit t root manifestPath manifest = .ok own) :
    own.map CrateUnit.directory
      = if (manifest.table? "package").isSome then [root] else [] := by
  rw [ownUnit] at h
  cases hpackage : manifest.table? "package" with
  | none =>
    rw [hpackage] at h
    cases h
    rfl
  | some package =>
    rw [hpackage] at h
    cases hu : packageUnit t root manifestPath manifest package with
    | error d =>
      simp only [hu] at h
      cases h
    | ok u =>
      simp only [hu] at h
      cases h
      simp [directory_of_packageUnit hu]

/-- The crates of members lie in the directories of the members, in their order. -/
theorem directories_sublist (t : FileTree) (members : List Path) :
    ((members.filterMap fun d => (unitIn t d).toOption).map CrateUnit.directory).Sublist
      members := by
  induction members with
  | nil => exact .slnil
  | cons d rest ih =>
    cases hu : unitIn t d with
    | error f =>
      rw [List.filterMap_cons_none (by rw [hu]; rfl)]
      exact ih.cons d
    | ok u =>
      rw [List.filterMap_cons_some (b := u) (by rw [hu]; rfl), List.map_cons,
        directory_of_unitIn hu]
      exact ih.cons_cons d

/-! ## Workspaces -/

/-- No member ends an enumeration that has a result. -/
theorem legible_of_enumerate {directories seen : List Path} {e e' : Enumeration}
    (h : (enumerate t directories seen e).result = .ok e') :
    ∀ d ∈ unseen directories seen, ∀ f, ¬BreaksOff t d f := by
  intro d hd f hf
  obtain ⟨_, _, _, _, hresult⟩ := enumerate_of_breaksOff ⟨d, hd, f, hf⟩ e
  cases h.symm.trans hresult

section Discover

variable {search : Search} {directory : Path} {manifest : Manifest}
  {entries : List (Value × Value)} {e : Enumeration}

/-- **Where a result comes from**: the root file in a directory without a manifest, or the package
and the members of a manifest. -/
theorem discoverBy_eq_ok (h : (discoverBy search t directory).result = .ok e) :
    (t.IsAbsent (manifestAt t directory) ∧ ∃ rootFile,
      Placement.crateRoot? t (t.resolve directory) = .ok (some rootFile) ∧
      e = ⟨[⟨(t.resolve directory).name, t.resolve directory, rootFile⟩], []⟩) ∨
    ∃ manifest own, Manifest.load t (manifestAt t directory) = .ok manifest ∧
      ownUnit t (t.resolve directory) (manifestAt t directory) manifest = .ok own ∧
      (withMembersBy search t (t.resolve directory) own (Value.lookup? manifest "workspace")).result
        = .ok e := by
  obtain ⟨root, hroot, h⟩ := Logged.result_andThen_eq_ok h
  rw [Logged.result_ofExcept] at hroot
  obtain rfl := FileTree.canonical_eq_ok hroot
  rw [manifestAt]
  obtain ⟨hasManifest, hprobe, h⟩ := Logged.result_andThen_eq_ok h
  rw [Logged.result_ofExcept] at hprobe
  cases hasManifest with
  | true =>
    obtain ⟨manifest, hload, h⟩ := Logged.result_andThen_eq_ok h
    obtain ⟨own, hown, h⟩ := Logged.result_andThen_eq_ok h
    obtain ⟨e', hmembers, h⟩ := Logged.result_andThen_eq_ok h
    rw [Logged.result_ofExcept] at hload hown
    have he : e' = e := by
      split at h
      · cases h
      · exact Except.ok.inj h
    exact .inr ⟨manifest, own, hload, hown, he ▸ hmembers⟩
  | false =>
    obtain ⟨rootFile, hroot, h⟩ := Logged.result_andThen_eq_ok h
    rw [Logged.result_ofExcept] at hroot
    refine .inl ⟨FileTree.probe_eq_ok_iff.1 hprobe, ?_⟩
    cases rootFile with
    | none => cases h
    | some rootFile => exact ⟨rootFile, hroot, (Except.ok.inj h).symm⟩

/-- The failure that stopped the list of members is reported after those that could be enumerated,
so there is a result only if nothing has stopped it. -/
theorem withMembersBy_eq_ok {root : Path} {own : List CrateUnit}
    (h : (withMembersBy search t root own (some (.map entries))).result = .ok e) :
    (membersBy search t root entries).failure = none ∧
      (enumerate t (membersBy search t root entries).directories (own.map CrateUnit.directory)
        ⟨own, []⟩).result = .ok e := by
  obtain ⟨e', henumerate, hfailure⟩ := Logged.result_andThen_eq_ok h
  split at hfailure
  · cases hfailure
  · rename_i hnone
    cases hfailure
    exact ⟨hnone, henumerate⟩

/-- If there is a result for a workspace, it is that of the enumeration of all members. -/
theorem enumerate_of_discoverBy (hload : Manifest.load t (manifestAt t directory) = .ok manifest)
    (htable : Value.lookup? manifest "workspace" = some (.map entries))
    (h : (discoverBy search t directory).result = .ok e) :
    ∃ own, ownUnit t (t.resolve directory) (manifestAt t directory) manifest = .ok own ∧
      (membersBy search t (t.resolve directory) entries).failure = none ∧
      (enumerate t (membersBy search t (t.resolve directory) entries).directories
        (own.map CrateUnit.directory) ⟨own, []⟩).result = .ok e := by
  rcases discoverBy_eq_ok h with ⟨⟨-, hnone⟩, -⟩ | ⟨manifest', own, hload', hown, hmembers⟩
  · cases hnone.symm.trans (Manifest.isFile_of_load hload)
  · cases hload.symm.trans hload'
    rw [htable] at hmembers
    exact ⟨own, hown, withMembersBy_eq_ok hmembers⟩

/-- The members of a workspace, each once, in the order in which they are first named.  The
directory of the workspace is none of them if it has a package of its own. -/
def memberList (search : Search) (t : FileTree) (root : Path) (manifest : Manifest)
    (entries : List (Value × Value)) : List Path :=
  let found := (membersBy search t root entries).directories.eraseDups
  if (manifest.table? "package").isSome then found.filter (· ≠ root) else found

/-- These are the directories that are met for the first time after that of the package. -/
theorem unseen_eq_memberList (search : Search) (t : FileTree) (root : Path) (manifest : Manifest)
    (entries : List (Value × Value)) :
    unseen (membersBy search t root entries).directories
        (if (manifest.table? "package").isSome then [root] else [])
      = memberList search t root manifest entries := by
  rw [unseen_eq, memberList]
  split <;> simp

theorem mem_memberList {root d : Path} :
    d ∈ memberList search t root manifest entries ↔
      d ∈ (membersBy search t root entries).directories ∧
        ((manifest.table? "package").isSome = true → d ≠ root) := by
  rw [← unseen_eq_memberList, mem_unseen]
  split <;> simp [*]

theorem nodup_memberList {root : Path} : (memberList search t root manifest entries).Nodup := by
  rw [← unseen_eq_memberList]
  exact nodup_unseen _ _

/-- The crates of the members lie in different directories, and none of them in that of the
package. -/
theorem nodup_directories {root : Path} {own : List CrateUnit}
    (h : own.map CrateUnit.directory
      = if (manifest.table? "package").isSome then [root] else []) :
    ((own ++ (memberList search t root manifest entries).filterMap
      fun d => (unitIn t d).toOption).map CrateUnit.directory).Nodup := by
  have hlie := directories_sublist t (memberList search t root manifest entries)
  rw [List.map_append, h]
  refine List.nodup_append'.2 ⟨by split <;> simp, nodup_memberList.sublist hlie, ?_⟩
  intro d hd hm
  have hne := (mem_memberList.1 (hlie.subset hm)).2
  split at hd
  · exact hne ‹_› (List.mem_singleton.1 hd)
  · exact List.not_mem_nil hd

/-- **A workspace neither loses nor repeats a member**, whatever the search for its patterns finds.
The members are the directories that the entries stand for, but none that is left out, and not the
directory of the workspace if that has a package of its own.  There is a crate or a diagnostic for
each of them, in their order, and no two crates lie in the same directory. -/
theorem members_listed_once
    (hload : Manifest.load t (manifestAt t directory) = .ok manifest)
    (htable : Value.lookup? manifest "workspace" = some (.map entries))
    (h : (discoverBy search t directory).result = .ok e) :
    discoverBy t.search t directory = discover t directory ∧
    ∃ (members : List Path) (own : List CrateUnit) (exclusions : List String) (items : List Value),
      members = memberList search t (t.resolve directory) manifest entries ∧
      ownUnit t (t.resolve directory) (manifestAt t directory) manifest = .ok own ∧
      listed entries "exclude" = .ok (exclusions.map .text) ∧
      listed entries "members" = .ok items ∧
      (∀ d, d ∈ members ↔
        (∃ entry, .text entry ∈ items ∧ StandsFor search t (t.resolve directory) entry d) ∧
        (∀ p ∈ exclusions, d ≠ t.resolve ((t.resolve directory).join p)) ∧
        ((manifest.table? "package").isSome = true → d ≠ t.resolve directory)) ∧
      members.Nodup ∧
      (∀ d ∈ members, (∃ u, unitIn t d = .ok u ∧ u.directory = d) ∨
        ∃ place fault, unitIn t d = .error (.diagnostic (.enumeration place fault))) ∧
      e.units = own ++ members.filterMap (fun d => (unitIn t d).toOption) ∧
      e.errors = members.filterMap (fault? t) ∧
      own.map CrateUnit.directory
        = (if (manifest.table? "package").isSome then [t.resolve directory] else []) ∧
      (e.units.map CrateUnit.directory).Nodup := by
  obtain ⟨own, hown, hfailure, henumerate⟩ := enumerate_of_discoverBy hload htable h
  obtain ⟨exclusions, items, hexclude, hitems, hmem⟩ := membersBy_eq hfailure
  have hdirectories := directories_of_ownUnit hown
  have hlegible := legible_of_enumerate henumerate
  rw [hdirectories, unseen_eq_memberList] at hlegible
  rw [hdirectories, enumerate_of_legible (by rwa [unseen_eq_memberList]),
    unseen_eq_memberList] at henumerate
  cases henumerate
  refine ⟨discoverBy_search t directory, _, own, exclusions, items, rfl, hown, hexclude, hitems,
    fun d => ?_, nodup_memberList, fun d hd => outcome_of_legible (hlegible d hd), rfl, rfl,
    hdirectories, nodup_directories hdirectories⟩
  rw [mem_memberList, hmem, and_assoc]

end Discover

/-! ## A workspace that names a member twice -/

namespace Sample

/-- The manifest of a workspace that names its second member outright, and then all directories. -/
def mixedManifest : List Nat := "workspace.members=['b','*']".toList.map Char.toNat

/-- The workspace with two members, with that manifest. -/
def mixed : FileTree := (tree [91]).put ["Cargo.toml"] (.file mixedManifest)

/-- The table of the workspace. -/
def mixedEntries : List (Value × Value) := [(.text "members", .list [.text "b", .text "*"])]

/-- A search that finds both directories, the second one first. -/
def bothDirectories : Search := fun _ _ => .ok ⟨[second.directory, first], none⟩

theorem load_mixed :
    Manifest.load mixed (manifestAt mixed top) = .ok [(.text "workspace", .map mixedEntries)] := by
  cbv

theorem memberList_mixed : memberList bothDirectories mixed (mixed.resolve top)
    [(.text "workspace", .map mixedEntries)] mixedEntries = [second.directory, first] := by
  cbv

theorem unitIn_mixed : unitIn mixed second.directory = .ok second ∧
    unitIn mixed first
      = .error (.diagnostic (.enumeration (first.join manifestName) .invalid)) := by
  cbv

theorem discoverBy_mixed : (discoverBy bothDirectories mixed top).result
    = .ok ⟨[second], [.enumeration (first.join manifestName) .invalid]⟩ := by
  cbv

end Sample

open Workspace.Sample in
/-- The member that is named outright and found again comes first, and once. -/
theorem repeated_member_listed_once :
    ∃ e, (discoverBy bothDirectories mixed top).result = .ok e ∧ e.units = [second] ∧
      e.errors = [.enumeration (first.join manifestName) .invalid] := by
  obtain ⟨-, members, own, -, -, hmembers, hown, -, -, -, -, -, hunits, herrors, -⟩ :=
    members_listed_once load_mixed rfl discoverBy_mixed
  obtain ⟨hsecond, hfirst⟩ := unitIn_mixed
  rw [memberList_mixed] at hmembers
  rw [hmembers] at hunits herrors
  cases hown
  refine ⟨_, discoverBy_mixed, ?_, ?_⟩
  · rw [hunits]
    simp [hsecond, hfirst, Except.toOption]
  · rw [herrors]
    simp [fault?_of_diagnostic hfirst, fault?_of_ok hsecond]

end Workspace

end CrateAtlas
