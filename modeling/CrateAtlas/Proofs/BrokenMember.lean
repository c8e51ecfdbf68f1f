import Mathlib
import CrateAtlas.Proofs.Enumeration

/-!
# Workspaces with broken members

What comes of a member depends on its own manifest and on which files there are, but not on the
contents of other manifests (`Workspace.unitIn_put`).  Hence **a broken member leaves the others
alone** (`Workspace.members_enumerated_apart`), in every workspace whose own manifest is sound.

This fails if a member ends the enumeration, or an entry of the lists fails
(`Workspace.Sound.Fails`).  Then there is no result at all, whatever the other members are: it is
enough that the manifest of one of them is not UTF-8 (`Workspace.member_takes_others_down`).
-/

set_option autoImplicit false

namespace CrateAtlas.Workspace

variable {t : FileTree}

/-! ## Workspaces -/

/-- The manifest at a directory. -/
def manifestAt (t : FileTree) (directory : Path) : Path := (t.resolve directory).join manifestName

/-- A directory with a sound manifest that declares a workspace. -/
structure Sound (t : FileTree) (directory : Path) where
  /-- The manifest. -/
  manifest : Manifest
  /-- The table of the workspace. -/
  entries : List (Value × Value)
  /-- The entries of the list of members. -/
  patterns : List String
  /-- The entries of the list of exclusions. -/
  exclusions : List String
  canonical : t.canonical directory = .ok (t.resolve directory)
  isFile : t.isFile (manifestAt t directory) = true
  load : Manifest.load t (manifestAt t directory) = .ok manifest
  table : Value.lookup? manifest "workspace" = some (.map entries)
  members : Value.lookup? entries "members" = some (.list (patterns.map .text))
  /-- There may be no list of exclusions. -/
  exclude : Value.lookup? entries "exclude" = some (.list (exclusions.map .text)) ∨
    Value.lookup? entries "exclude" = none ∧ exclusions = []
  /-- Patterns are well-formed. -/
  wellFormed : ∀ p ∈ patterns, Text.hasWildcard p = true →
    ∃ parts, PatternPart.readAll p = .ok parts
  /-- A member is named outright and not left out. -/
  plain : ∃ p ∈ patterns, Text.hasWildcard p = false ∧
    t.resolve ((t.resolve directory).join p)
      ∉ exclusions.map fun q => t.resolve ((t.resolve directory).join q)
  /-- If the manifest has a package, then that has a root file. -/
  package : ∀ package, manifest.table? "package" = some package →
    ∃ file ∈ manifest.rootCandidates (t.resolve directory), t.isFile file = true

namespace Sound

variable {directory : Path} (w : Sound t directory)

/-- The directories of the members, each once.  If the manifest has a package, its own directory
is none of them. -/
def memberDirectories : List Path :=
  unseen (Workspace.members t (t.resolve directory) (.map w.entries)).directories
    (if (w.manifest.table? "package").isSome then [t.resolve directory] else [])

/-- **Why there is no result.**  It cannot be found out whether a root file of the package is there,
an entry of one of the lists cannot be looked up, or a member ends the enumeration. -/
inductive Fails : Failure → Prop
  | package {package : List (Value × Value)} {fault : AccessFault} {file : Path}
    (hpackage : w.manifest.table? "package" = some package)
    (h : t.IsFirstBlocked (w.manifest.rootCandidates (t.resolve directory)) fault file) :
    Fails (.blocked fault file)
  | exclusion {p : String} {f : Failure} (hp : p ∈ w.exclusions)
    (h : t.canonical ((t.resolve directory).join p) = .error f) : Fails f
  | entry {p : String} {f : Failure} (hp : p ∈ w.patterns)
    (h : EntryFails t (t.resolve directory) p f) : Fails f
  | member {d : Path} {f : Failure} (hd : d ∈ w.memberDirectories) (h : BreaksOff t d f) : Fails f

/-- The crate of the manifest's own package, if it has one. -/
theorem ownUnit_cases :
    (∃ own, ownUnit t (t.resolve directory) (manifestAt t directory) w.manifest = .ok own ∧
      own.map CrateUnit.directory
        = if (w.manifest.table? "package").isSome then [t.resolve directory] else []) ∨
    ∃ f, ownUnit t (t.resolve directory) (manifestAt t directory) w.manifest = .error f ∧
      w.Fails f := by
  rw [ownUnit]
  cases hpackage : w.manifest.table? "package" with
  | none => exact .inl ⟨[], rfl, rfl⟩
  | some package =>
    rcases packageUnit_cases t (t.resolve directory) (manifestAt t directory) w.manifest package
      with ⟨rootFile, -, hu⟩ | ⟨hnone, -⟩ | ⟨fault, file, hblocked, hu⟩
    · exact .inl ⟨_, by simp only [hu]; rfl, rfl⟩
    · obtain ⟨file, hmem, hfile⟩ := w.package package hpackage
      cases hfile.symm.trans (hnone file hmem).2
    · exact .inr ⟨_, by simp only [hu]; rfl, .package hpackage hblocked⟩

theorem listed_exclude : listed w.entries "exclude" = .ok (w.exclusions.map .text) := by
  rcases w.exclude with h | ⟨h, hnil⟩
  · exact listed_of_list h
  · rw [listed_of_none h, hnil]
    rfl

theorem members_eq_collect
    (h : excluded t (t.resolve directory) w.entries
      = .ok (w.exclusions.map fun p => t.resolve ((t.resolve directory).join p))) :
    Workspace.members t (t.resolve directory) (.map w.entries)
      = collect t (t.resolve directory)
          (w.exclusions.map fun p => t.resolve ((t.resolve directory).join p))
          (w.patterns.map .text) := by
  simp only [Workspace.members, h, listed_of_list w.members]

/-- **The list of members is complete**, unless one of the entries fails; and then the members that
are named outright are in it. -/
theorem members_cases :
    (∃ f, (Workspace.members t (t.resolve directory) (.map w.entries)).failure = some f ∧
      w.Fails f) ∨
    (Workspace.members t (t.resolve directory) (.map w.entries)).failure = none ∧
      (∀ p ∈ w.exclusions, ∀ f, t.canonical ((t.resolve directory).join p) ≠ .error f) ∧
      (∀ p ∈ w.patterns, ∀ f, ¬EntryFails t (t.resolve directory) p f) ∧
      ∃ d, d ∈ (Workspace.members t (t.resolve directory) (.map w.entries)).directories := by
  rcases excluded_cases t (t.resolve directory) w.listed_exclude with
    ⟨p, hp, f, hf, hx⟩ | ⟨hclear, hx⟩
  · exact .inl ⟨f, by simp only [Workspace.members, hx], .exclusion hp hf⟩
  · rw [w.members_eq_collect hx]
    rcases failure_collect_cases t (t.resolve directory)
      (w.exclusions.map fun p => t.resolve ((t.resolve directory).join p)) w.wellFormed with
      ⟨p, hp, f, hf, hfailure⟩ | ⟨hentries, hfailure⟩
    · exact .inl ⟨f, hfailure, .entry hp hf⟩
    · obtain ⟨p, hp, hw, hplain⟩ := w.plain
      refine .inr ⟨hfailure, fun q hq f hf => ?_, hentries,
        _, mem_collect w.wellFormed hfailure hp hw hplain⟩
      cases (hclear q hq).symm.trans hf

/-- The enumeration of the members ends the discovery, unless the list of them is incomplete. -/
theorem result_discover :
    (discover t directory).result =
      match ownUnit t (t.resolve directory) (manifestAt t directory) w.manifest with
      | .error f => .error f
      | .ok own =>
        match (enumerate t (Workspace.members t (t.resolve directory) (.map w.entries)).directories
          (own.map CrateUnit.directory) ⟨own, []⟩).result with
        | .error f => .error f
        | .ok e =>
          match (Workspace.members t (t.resolve directory) (.map w.entries)).failure with
          | some f => .error f
          | none =>
            if e.units.isEmpty && e.errors.isEmpty then
              .error (enumerationFailure (manifestAt t directory) .nothingDeclared)
            else .ok e := by
  have hprobe := FileTree.probe_of_isFile w.isFile
  have hload := w.load
  rw [manifestAt] at hprobe hload
  rw [discover, Logged.result_andThen, w.canonical]
  simp only [Logged.result_ofExcept, hprobe, if_true, Logged.result_andThen, hload, w.table,
    withMembers]
  rw [← manifestAt]
  cases ownUnit t (t.resolve directory) (manifestAt t directory) w.manifest with
  | error f => rfl
  | ok own =>
    simp only
    cases (enumerate t (Workspace.members t (t.resolve directory) (.map w.entries)).directories
      (own.map CrateUnit.directory) ⟨own, []⟩).result with
    | error f => rfl
    | ok e =>
      cases (Workspace.members t (t.resolve directory) (.map w.entries)).failure with
      | some f => rfl
      | none =>
        simp only [Logged.result_done]
        split <;> rfl

/-- **What comes of the discovery**, if nothing fails: the crates and the diagnostics are those of
the members, after the crate of the manifest's own package. -/
theorem discover_of_not_fails (h : ∀ f, ¬w.Fails f) :
    ∃ own, ownUnit t (t.resolve directory) (manifestAt t directory) w.manifest = .ok own ∧
      (discover t directory).result
        = .ok ⟨own ++ w.memberDirectories.filterMap (fun d => (unitIn t d).toOption),
            w.memberDirectories.filterMap (fault? t)⟩ := by
  rcases w.ownUnit_cases with ⟨own, hown, hdirectories⟩ | ⟨f, -, hf⟩
  · rcases w.members_cases with ⟨f, -, hf⟩ | ⟨hfailure, -, -, d, hd⟩
    · exact absurd hf (h f)
    · have hlegible : ∀ d ∈ w.memberDirectories, ∀ f, ¬BreaksOff t d f :=
        fun d hd f hf => h f (.member hd hf)
      refine ⟨own, hown, ?_⟩
      rw [w.result_discover, hown]
      simp only [hfailure, hdirectories, enumerate_of_legible hlegible]
      refine if_neg fun hempty => ?_
      -- Something was enumerated: the package, or else the member that is named outright.
      simp only [List.nil_append, Bool.and_eq_true, List.isEmpty_iff, List.append_eq_nil_iff,
        List.filterMap_eq_nil_iff] at hempty
      obtain ⟨⟨hown', hunits⟩, hfaults⟩ := hempty
      rw [hown'] at hdirectories
      cases hpackage : (w.manifest.table? "package").isSome with
      | true =>
        rw [hpackage] at hdirectories
        cases hdirectories
      | false =>
        have hmember : d ∈ w.memberDirectories := by
          rw [memberDirectories, mem_unseen, hpackage]
          exact ⟨hd, by simp⟩
        rw [memberDirectories] at hmember
        rcases unitIn_cases t d with ⟨u, hu⟩ | ⟨place, fault, hu, -⟩ | ⟨f, hf, -⟩
        · have hnone := hunits d hmember
          rw [hu] at hnone
          cases hnone
        · cases (fault?_of_diagnostic hu).symm.trans (hfaults d hmember)
        · exact hlegible d hmember f hf
  · exact absurd hf (h f)

/-- If the package has a crate, the list is complete and all members can be enumerated, then nothing
fails. -/
theorem not_fails_of_enumerate {own : List CrateUnit} {e : Enumeration}
    (hown : ownUnit t (t.resolve directory) (manifestAt t directory) w.manifest = .ok own)
    (hresult : (enumerate t
      (Workspace.members t (t.resolve directory) (.map w.entries)).directories
      (if (w.manifest.table? "package").isSome then [t.resolve directory] else [])
      ⟨own, []⟩).result = .ok e)
    (hfailure : (Workspace.members t (t.resolve directory) (.map w.entries)).failure = none)
    (f : Failure) : ¬w.Fails f := by
  intro h
  rcases w.members_cases with ⟨g, hsome, -⟩ | ⟨-, hexclusions, hentries, -⟩
  · cases hfailure.symm.trans hsome
  · cases h with
    | package hpackage h =>
      simp only [ownUnit, hpackage, packageUnit, FileTree.firstFile?_of_isFirstBlocked h] at hown
      cases hown
    | exclusion hp h => exact hexclusions _ hp _ h
    | entry hp h => exact hentries _ hp _ h
    | member hd h =>
      obtain ⟨_, _, _, _, hbroken⟩ := enumerate_of_breaksOff ⟨_, hd, _, h⟩ ⟨own, []⟩
      cases hresult.symm.trans hbroken

/-- **A discovery that fails does so for one of the reasons.** -/
theorem fails_of_discover {f : Failure} (h : (discover t directory).result = .error f) :
    w.Fails f := by
  rcases w.ownUnit_cases with ⟨own, hown, hdirectories⟩ | ⟨g, hown, hg⟩
  · have hdiscover := w.result_discover
    rw [hown] at hdiscover
    simp only [hdirectories] at hdiscover
    cases hresult : (enumerate t
        (Workspace.members t (t.resolve directory) (.map w.entries)).directories
        (if (w.manifest.table? "package").isSome then [t.resolve directory] else [])
        ⟨own, []⟩).result with
    | error g =>
      rw [hresult] at hdiscover
      cases h.symm.trans hdiscover
      obtain ⟨d, hd, hf⟩ := breaksOff_of_enumerate hresult
      exact .member hd hf
    | ok e =>
      rcases w.members_cases with ⟨g, hfailure, hg⟩ | ⟨hfailure, -⟩
      · rw [hresult, hfailure] at hdiscover
        cases h.symm.trans hdiscover
        exact hg
      · have hnone := w.not_fails_of_enumerate hown hresult hfailure
        obtain ⟨_, -, hok⟩ := w.discover_of_not_fails hnone
        cases h.symm.trans hok
  · have hdiscover := w.result_discover
    rw [hown] at hdiscover
    cases h.symm.trans hdiscover
    exact hg

/-- Where something fails, there is no result. -/
theorem not_fails_of_discover {e : Enumeration} (h : (discover t directory).result = .ok e)
    (f : Failure) : ¬w.Fails f := by
  rw [w.result_discover] at h
  rcases w.ownUnit_cases with ⟨own, hown, hdirectories⟩ | ⟨g, hown, -⟩
  · rw [hown] at h
    simp only [hdirectories] at h
    split at h
    · cases h
    · rename_i hresult
      split at h
      · cases h
      · rename_i hfailure
        exact w.not_fails_of_enumerate hown hresult hfailure f
  · rw [hown] at h
    cases h

end Sound

/-! ## Other octets in one manifest -/

section Put

variable {l : Location} {old : List Nat}

/-- A manifest elsewhere is read as before. -/
theorem load_put (h : t.entryAt? l = some (.file old)) (octets : List Nat) {file : Path}
    (hfile : t.locate file ≠ .ok l) :
    Manifest.load (t.put l (.file octets)) file = Manifest.load t file := by
  have htoml : readToml (t.put l (.file octets)) file = readToml t file := by
    rw [readToml, readToml, FileTree.read_put h hfile]
  rw [Manifest.load, Manifest.load, Path.checked]
  cases file.hasNull with
  | true => rfl
  | false => simp only [cond_false, Except.bind, htoml]

/-- **What comes of a member does not depend on the contents of other manifests.** -/
theorem unitIn_put (h : t.entryAt? l = some (.file old)) (octets : List Nat) {directory : Path}
    (hd : t.locate (directory.join manifestName) ≠ .ok l) :
    unitIn (t.put l (.file octets)) directory = unitIn t directory := by
  have hshape := FileTree.sameShape_put h octets
  simp only [unitIn, hshape.probe_isFile_eq, load_put h octets hd, hshape.packageUnit_eq]

namespace Sound

variable {directory : Path}

/-- Other octets in another file leave the manifest of a workspace, and what it declares. -/
def put (w : Sound t directory) (h : t.entryAt? l = some (.file old)) (octets : List Nat)
    (hl : t.locate (manifestAt t directory) ≠ .ok l) :
    Sound (t.put l (.file octets)) directory where
  manifest := w.manifest
  entries := w.entries
  patterns := w.patterns
  exclusions := w.exclusions
  canonical := by
    have hshape := FileTree.sameShape_put h octets
    rw [hshape.canonical_eq, hshape.resolve_eq]
    exact w.canonical
  isFile := by
    have hshape := FileTree.sameShape_put h octets
    rw [manifestAt, hshape.resolve_eq, hshape.isFile_eq]
    exact w.isFile
  load := by
    rw [manifestAt, (FileTree.sameShape_put h octets).resolve_eq]
    exact (load_put h octets hl).trans w.load
  table := w.table
  members := w.members
  exclude := w.exclude
  wellFormed := w.wellFormed
  plain := by
    simp only [(FileTree.sameShape_put h octets).resolve_eq]
    exact w.plain
  package := by
    simp only [(FileTree.sameShape_put h octets).resolve_eq,
      (FileTree.sameShape_put h octets).isFile_eq]
    exact w.package

theorem memberDirectories_put (w : Sound t directory) (h : t.entryAt? l = some (.file old))
    (octets : List Nat) (hl : t.locate (manifestAt t directory) ≠ .ok l) :
    (w.put h octets hl).memberDirectories = w.memberDirectories := by
  have hshape := FileTree.sameShape_put h octets
  rw [memberDirectories, memberDirectories, hshape.members_eq, hshape.resolve_eq]
  rfl

/-- What fails with other octets has failed before, or the octets are those of a member that ends
the enumeration. -/
theorem fails_of_put (w : Sound t directory) (h : t.entryAt? l = some (.file old))
    (octets : List Nat) (hl : t.locate (manifestAt t directory) ≠ .ok l) {f : Failure}
    (hf : (w.put h octets hl).Fails f) :
    w.Fails f ∨ ∃ d ∈ w.memberDirectories, t.locate (d.join manifestName) = .ok l ∧
      BreaksOff (t.put l (.file octets)) d f := by
  have hshape := FileTree.sameShape_put h octets
  have hresolve := hshape.resolve_eq directory
  cases hf with
  | package hpackage hblocked =>
    rw [hshape.isFirstBlocked_iff, hresolve] at hblocked
    exact .inl (.package hpackage hblocked)
  | exclusion hp hc =>
    rw [hshape.canonical_eq, hresolve] at hc
    exact .inl (.exclusion hp hc)
  | entry hp he =>
    rw [hresolve] at he
    exact .inl (.entry hp (he.of_sameShape hshape))
  | @member d _ hd hbreaks =>
    rw [w.memberDirectories_put h octets hl] at hd
    by_cases hmanifest : t.locate (d.join manifestName) = .ok l
    · exact .inr ⟨d, hd, hmanifest, hbreaks⟩
    · refine .inl (.member hd (breaksOff_iff.2 ⟨?_, hbreaks.isFatal⟩))
      rw [← unitIn_put h octets hmanifest]
      exact unitIn_of_breaksOff hbreaks

theorem ownUnit_put (w : Sound t directory) (h : t.entryAt? l = some (.file old))
    (octets : List Nat) :
    ownUnit (t.put l (.file octets)) ((t.put l (.file octets)).resolve directory)
        (manifestAt (t.put l (.file octets)) directory) w.manifest
      = ownUnit t (t.resolve directory) (manifestAt t directory) w.manifest := by
  have hshape := FileTree.sameShape_put h octets
  simp only [ownUnit, manifestAt, hshape.resolve_eq, hshape.packageUnit_eq]

end Sound

end Put

/-- **A broken member leaves the others alone.**  For a workspace with a sound manifest, there are
the crate of its own package, if it has one, and a crate or a diagnostic for each member in order,
whatever is in their manifests.  If other octets are put into the manifest of one member, the same
members are enumerated, the same comes of all others, and nothing fails anew but that member.

This holds unless something fails: then there is no result at all, and the failure is one of those
that `Sound.Fails` lists. -/
theorem members_enumerated_apart {directory : Path} (w : Sound t directory) :
    w.memberDirectories.Nodup ∧
    ((∃ e, (discover t directory).result = .ok e) ↔ ∀ f, ¬w.Fails f) ∧
    (∀ f, (discover t directory).result = .error f → w.Fails f) ∧
    (∀ e, (discover t directory).result = .ok e →
      ∃ own, ownUnit t (t.resolve directory) (manifestAt t directory) w.manifest = .ok own ∧
        e.units = own ++ w.memberDirectories.filterMap (fun d => (unitIn t d).toOption) ∧
        e.errors = w.memberDirectories.filterMap (fault? t) ∧
        ∀ d ∈ w.memberDirectories, (∃ u, unitIn t d = .ok u) ∨
          ∃ place fault, unitIn t d = .error (.diagnostic (.enumeration place fault))) ∧
    ∀ l old octets, t.entryAt? l = some (.file old) → t.locate (manifestAt t directory) ≠ .ok l →
      ∃ v : Sound (t.put l (.file octets)) directory,
        v.manifest = w.manifest ∧ v.memberDirectories = w.memberDirectories ∧
        ownUnit (t.put l (.file octets)) ((t.put l (.file octets)).resolve directory)
            (manifestAt (t.put l (.file octets)) directory) v.manifest
          = ownUnit t (t.resolve directory) (manifestAt t directory) w.manifest ∧
        (∀ f, v.Fails f → w.Fails f ∨ ∃ d ∈ w.memberDirectories,
          t.locate (d.join manifestName) = .ok l ∧ BreaksOff (t.put l (.file octets)) d f) ∧
        ∀ d ∈ w.memberDirectories, t.locate (d.join manifestName) ≠ .ok l →
          unitIn (t.put l (.file octets)) d = unitIn t d := by
  refine ⟨nodup_unseen _ _, ⟨?_, ?_⟩, fun f => w.fails_of_discover, ?_, ?_⟩
  · rintro ⟨e, he⟩
    exact w.not_fails_of_discover he
  · intro hnone
    obtain ⟨own, -, hok⟩ := w.discover_of_not_fails hnone
    exact ⟨_, hok⟩
  · intro e he
    have hnone := w.not_fails_of_discover he
    obtain ⟨own, hown, hok⟩ := w.discover_of_not_fails hnone
    cases he.symm.trans hok
    refine ⟨own, hown, rfl, rfl, fun d hd => ?_⟩
    rcases unitIn_cases t d with hu | ⟨place, fault, hu, -⟩ | ⟨f, hf, -⟩
    · exact .inl hu
    · exact .inr ⟨place, fault, hu⟩
    · exact absurd (.member hd hf) (hnone f)
  · intro l old octets h hl
    exact ⟨w.put h octets hl, rfl, w.memberDirectories_put h octets hl, w.ownUnit_put h octets,
      fun f => w.fails_of_put h octets hl, fun d _ hd => unitIn_put h octets hd⟩

/-! ## A workspace with two members -/

namespace Sample

/-- A workspace at the top with two members, of which the first one has the given manifest. -/
def tree (octets : List Nat) : FileTree :=
  { entries := [
      (["Cargo.toml"], .file ("workspace.members=['a','b']".toList.map Char.toNat)),
      (["a"], .directory), (["a", "Cargo.toml"], .file octets),
      (["b"], .directory), (["b", "Cargo.toml"], .file ("[package]".toList.map Char.toNat)),
      (["b", "src"], .directory), (["b", "src", "lib.rs"], .file [])],
    here := [] }

/-- The directory of the workspace. -/
def top : Path := ⟨.top, []⟩

/-- The table of the workspace. -/
def entries : List (Value × Value) := [(.text "members", .list [.text "a", .text "b"])]

/-- The directory of the first member. -/
def first : Path := ⟨.top, ["a"]⟩

/-- The second member. -/
def second : CrateUnit := ⟨"b", ⟨.top, ["b"]⟩, ⟨.top, ["b", "src", "lib.rs"]⟩⟩

theorem load_tree (octets : List Nat) :
    Manifest.load (tree octets) (manifestAt (tree octets) top)
      = .ok [(.text "workspace", .map entries)] := by
  cbv

/-- The manifest is sound, whatever is in that of the first member. -/
def sound (octets : List Nat) : Sound (tree octets) top where
  manifest := [(.text "workspace", .map entries)]
  entries := entries
  patterns := ["a", "b"]
  exclusions := []
  canonical := by cbv
  isFile := Manifest.isFile_of_load (load_tree octets)
  load := load_tree octets
  table := rfl
  members := rfl
  exclude := .inr ⟨rfl, rfl⟩
  wellFormed := by
    intro p hp hw
    simp only [List.mem_cons, List.not_mem_nil, or_false] at hp
    rcases hp with rfl | rfl <;> cases hw
  plain := ⟨"a", List.mem_cons_self, by decide, List.not_mem_nil⟩
  package := by
    intro package h
    cases h

theorem members_sound (octets : List Nat) :
    (sound octets).memberDirectories = [first, second.directory] := by
  cbv

theorem unitIn_second (octets : List Nat) :
    unitIn (tree octets) second.directory = .ok second := by
  cbv

/-- A manifest that is not closed. -/
theorem unitIn_first : unitIn (tree [91]) first
    = .error (.diagnostic (.enumeration (first.join manifestName) .invalid)) := by
  cbv

/-- A manifest that is not UTF-8. -/
theorem breaksOff_first :
    BreaksOff (tree [255]) first (.undecodable ⟨.startOctet, 255, 0, 1⟩) :=
  breaksOff_iff.2 (by cbv)

/-- Nothing fails but the first member. -/
theorem breaksOff_of_fails {octets : List Nat} {f : Failure} (h : (sound octets).Fails f) :
    BreaksOff (tree octets) first f := by
  have ha : (tree octets).canonical (((tree octets).resolve top).join "a") = .ok first := by cbv
  have hb : (tree octets).canonical (((tree octets).resolve top).join "b")
      = .ok second.directory := by cbv
  cases h with
  | package hpackage => cases hpackage
  | exclusion hp => cases hp
  | entry hp h =>
    cases h with
    | plain _ h =>
      simp only [sound, List.mem_cons, List.not_mem_nil, or_false] at hp
      rcases hp with rfl | rfl
      · cases ha.symm.trans h
      · cases hb.symm.trans h
    | pattern hw =>
      simp only [sound, List.mem_cons, List.not_mem_nil, or_false] at hp
      rcases hp with rfl | rfl <;> cases hw
  | member hd h =>
    simp only [members_sound, List.mem_cons, List.not_mem_nil, or_false] at hd
    rcases hd with rfl | rfl
    · exact h
    · exact absurd h (not_breaksOff_of_ok (unitIn_second _) f)

end Sample

open Workspace.Sample in
/-- In the workspace with two members, the second one is enumerated though the manifest of the first
one is invalid. -/
theorem invalid_member_reported :
    ∃ e, (discover (tree [91]) top).result = .ok e ∧ e.units = [second] ∧
      e.errors = [.enumeration (first.join manifestName) .invalid] := by
  obtain ⟨-, hiff, -, hresult, -⟩ := members_enumerated_apart (sound [91])
  obtain ⟨e, he⟩ := hiff.2 fun f hf =>
    not_breaksOff_of_diagnostic unitIn_first f (breaksOff_of_fails hf)
  obtain ⟨own, hown, hunits, herrors, -⟩ := hresult e he
  cases hown
  refine ⟨e, he, ?_, ?_⟩
  · rw [hunits, members_sound]
    simp [unitIn_first, unitIn_second, Except.toOption]
  · rw [herrors, members_sound]
    simp [fault?_of_diagnostic unitIn_first, fault?_of_ok (unitIn_second _)]

open Workspace.Sample in
/-- If the manifest of the first member is not UTF-8, there is no result, though the second member
has a crate. -/
theorem member_takes_others_down :
    ∃ (t : FileTree) (directory : Path) (w : Sound t directory),
      (∃ d ∈ w.memberDirectories, ∃ u, unitIn t d = .ok u) ∧
      ∃ fault, (discover t directory).result = .error (.undecodable fault) := by
  refine ⟨tree [255], top, sound _, ?_, ⟨.startOctet, 255, 0, 1⟩, ?_⟩
  · rw [members_sound]
    exact ⟨second.directory, by simp, second, unitIn_second _⟩
  · have hbreaks := breaksOff_first
    have hmember : first ∈ (sound [255]).memberDirectories := by simp [members_sound]
    cases hresult : (discover (tree [255]) top).result with
    | ok e => exact absurd (.member hmember hbreaks) ((sound [255]).not_fails_of_discover hresult _)
    | error f =>
      have hf := breaksOff_of_fails ((sound [255]).fails_of_discover hresult)
      rw [Except.error.inj ((unitIn_of_breaksOff hf).symm.trans (unitIn_of_breaksOff hbreaks))]

end CrateAtlas.Workspace
