import CrateAtlas.Proofs.MemberList
import CrateAtlas.Proofs.Refusal
import CrateAtlas.Proofs.Utf8

/-!
# Root files

The root of a crate is chosen when the crate is enumerated, and it is read when the crate is
analysed, under the path that is left when all links are resolved.

* A crate is given the first of its *candidates* that is a file (`enumerated_of_discover`).  What a
  manifest names may be of any type; what does not fit is passed over (`NamedPaths`).
* The file is still there when the links on the way to it are resolved, but the resolved path may be
  too long to open it, and that a file is there does not mean that it may be read
  (`FileTree.read_resolve`).

So the analysis loses a crate exactly if its root may not be read, has too long a path or is no text
(`root_files_by_priority`).
-/

set_option autoImplicit false

namespace CrateAtlas

/-- A computation that goes on fails in one of its two parts. -/
theorem Logged.result_andThen_eq_error {α β : Type} {x : Logged α} {f : α → Logged β}
    {failure : Failure} (h : (x.andThen f).result = .error failure) :
    x.result = .error failure ∨ ∃ a, x.result = .ok a ∧ (f a).result = .error failure := by
  rw [Logged.result_andThen] at h
  split at h
  · exact .inl (by simp_all)
  · exact .inr ⟨_, ‹_›, h⟩

/-! ## Resolved paths -/

namespace FileTree

variable {t : FileTree} {l : Location} {p : Path} {octets : List Nat}

/-- A path leads to a file, which lies at a location and has these octets. -/
structure LeadsToFile (t : FileTree) (p : Path) (l : Location) (octets : List Nat) : Prop where
  locate : t.locate p = .ok l
  entry : t.entryAt? l = some (.file octets)

theorem exists_leadsToFile (h : t.isFile p = true) : ∃ l octets, t.LeadsToFile p l octets := by
  obtain ⟨-, l, octets, hl, he⟩ := isFile_iff.1 h
  exact ⟨l, octets, hl, he⟩

/-- **A file is read under its resolved path**, unless that is too long or the file may not be
read. -/
theorem LeadsToFile.read_resolve (h : t.LeadsToFile p l octets) :
    t.read (t.resolve p) =
      if isOverlong (.ofLocation l) then .error .nameTooLong
      else if t.denies l .read then .error .denied
      else .ok octets := by
  rw [resolve_of_locate h.locate, read, locate_ofLocation (plain_of_locate h.locate)]
  cases isOverlong (.ofLocation l) with
  | true => rfl
  | false => simp [h.entry]

end FileTree

/-! ## Candidates -/

/-- These are the texts at `path` in the tables among the values, in order. -/
inductive NamedPaths : List Value → List String → Prop
  | nil : NamedPaths [] []
  | table {entries : List (Value × Value)} {path : String} {items : List Value}
    {paths : List String} (hpath : Value.lookup? entries "path" = some (.text path))
    (hrest : NamedPaths items paths) : NamedPaths (.map entries :: items) (path :: paths)
  | other {item : Value} {items : List Value} {paths : List String}
    (hitem : ∀ entries path, item = .map entries →
      Value.lookup? entries "path" ≠ some (.text path))
    (hrest : NamedPaths items paths) : NamedPaths (item :: items) paths

/-- The path that a value names, if it is a table that has one. -/
theorem bind_text?_eq_some_iff {item : Value} {path : String} :
    (item.member? "path").bind Value.text? = some path ↔
      ∃ entries, item = .map entries ∧ Value.lookup? entries "path" = some (.text path) := by
  cases item <;> simp [Value.member?, Option.bind_eq_some_iff, Value.text?_eq_some_iff]

theorem namedPaths_iff {items : List Value} {paths : List String} :
    NamedPaths items paths ↔
      paths = items.filterMap fun item => (item.member? "path").bind Value.text? := by
  constructor
  · intro h
    induction h with
    | nil => rfl
    | table hpath _ ih =>
      simp only [List.filterMap_cons, bind_text?_eq_some_iff.2 ⟨_, rfl, hpath⟩, ih]
    | @other item _ _ hitem _ ih =>
      have hnone : (item.member? "path").bind Value.text? = none := by
        refine Option.eq_none_iff_forall_ne_some.2 fun path h => ?_
        obtain ⟨entries, hmap, hpath⟩ := bind_text?_eq_some_iff.1 h
        exact hitem entries path hmap hpath
      simp only [List.filterMap_cons, hnone, ih]
  · rintro rfl
    induction items with
    | nil => exact .nil
    | cons item items ih =>
      cases hitem : (item.member? "path").bind Value.text? with
      | none =>
        simp only [List.filterMap_cons, hitem]
        refine .other (fun entries path hmap hpath => ?_) ih
        cases hitem.symm.trans (bind_text?_eq_some_iff.2 ⟨entries, hmap, hpath⟩)
      | some path =>
        obtain ⟨entries, rfl, hpath⟩ := bind_text?_eq_some_iff.1 hitem
        simp only [List.filterMap_cons, hitem]
        exact .table hpath ih

/-- What a manifest names as root files: at most one for the library, and those of the binaries, if
there is a list of them. -/
structure Manifest.Names (manifest : Manifest) (library binaries : List String) : Prop where
  ofLibrary : NamedPaths (Value.lookup? manifest "lib").toList library
  ofBinaries : ∀ items, Value.lookup? manifest "bin" = some (.list items) →
    NamedPaths items binaries
  noBinaries : (∀ items, Value.lookup? manifest "bin" ≠ some (.list items)) → binaries = []

/-- The files that may be the root of the crate in a directory, the preferred ones first. -/
inductive RootCandidates (t : FileTree) (directory : Path) : List Path → Prop
  | described {manifest : Manifest} {library binaries : List String}
    (hload : Manifest.load t (directory.join manifestName) = .ok manifest)
    (hnames : manifest.Names library binaries) :
    RootCandidates t directory
      (library.map directory.join ++ [(directory.join "src").join "lib.rs"] ++
        binaries.map directory.join ++ [(directory.join "src").join "main.rs"])
  | bare (hnone : t.isFile (directory.join manifestName) = false) :
    RootCandidates t directory
      [(directory.join "src").join "lib.rs", (directory.join "src").join "main.rs"]

/-- The crate in a directory has no root file. -/
def LacksRoot (t : FileTree) (directory : Path) : Prop :=
  ∃ candidates, RootCandidates t directory candidates ∧ ∀ c ∈ candidates, t.IsAbsent c

variable {t : FileTree} {directory : Path} {candidates : List Path} {file : Path}

theorem Manifest.names_iff {manifest : Manifest} {library binaries : List String} :
    manifest.Names library binaries ↔
      library = ((manifest.table? "lib").bind (entryText? · "path")).toList ∧
        binaries = manifest.binaryPaths := by
  have hlibrary : NamedPaths (Value.lookup? manifest "lib").toList library ↔
      library = ((manifest.table? "lib").bind (entryText? · "path")).toList := by
    rw [namedPaths_iff, Manifest.table?]
    cases Value.lookup? manifest "lib" with
    | none => rfl
    | some v => cases v <;> rfl
  have hbinaries : ((∀ items, Value.lookup? manifest "bin" = some (.list items) →
        NamedPaths items binaries) ∧
      ((∀ items, Value.lookup? manifest "bin" ≠ some (.list items)) → binaries = [])) ↔
      binaries = manifest.binaryPaths := by
    rw [binaryPaths]
    split
    · rename_i items hitems
      simp [hitems, namedPaths_iff]
    · rename_i hitems
      exact ⟨fun h => h.2 hitems,
        fun h => ⟨fun items hlist => absurd hlist (hitems items), fun _ => h⟩⟩
  exact ⟨fun h => ⟨hlibrary.1 h.ofLibrary, hbinaries.1 ⟨h.ofBinaries, h.noBinaries⟩⟩,
    fun h => ⟨hlibrary.2 h.1, (hbinaries.2 h.2).1, (hbinaries.2 h.2).2⟩⟩

theorem rootCandidates_of_load {manifest : Manifest}
    (hload : Manifest.load t (directory.join manifestName) = .ok manifest) :
    RootCandidates t directory (manifest.rootCandidates directory) :=
  .described hload (Manifest.names_iff.2 ⟨rfl, rfl⟩)

/-- A directory has one list of candidates. -/
theorem RootCandidates.unique {others : List Path} (h : RootCandidates t directory candidates)
    (h' : RootCandidates t directory others) : others = candidates := by
  cases h with
  | described hload hnames =>
    obtain ⟨rfl, rfl⟩ := Manifest.names_iff.1 hnames
    cases h' with
    | described hload' hnames' =>
      cases hload.symm.trans hload'
      obtain ⟨rfl, rfl⟩ := Manifest.names_iff.1 hnames'
      rfl
    | bare hnone => simp [Manifest.isFile_of_load hload] at hnone
  | bare hnone =>
    cases h' with
    | described hload' => simp [Manifest.isFile_of_load hload'] at hnone
    | bare => rfl

/-! ## One crate -/

/-- **A complaint about a root file is right**: the crate that it is about has none. -/
def Diagnostic.Justified (t : FileTree) : Diagnostic → Prop
  | .enumeration place .noCrate => LacksRoot t place
  | .enumeration place (.noRootFile _) =>
    ∃ directory, place = directory.join manifestName ∧ LacksRoot t directory
  | _ => True

namespace Workspace

variable {u : CrateUnit} {manifest : Manifest}

/-- The failure to load a manifest is no complaint about a root file. -/
theorem justified_of_load {x : Diagnostic} (h : Manifest.load t file = .error (.diagnostic x)) :
    x.Justified t := by
  cases hnull : file.hasNull with
  | true => simp [Manifest.load, Path.checked, hnull, Except.bind] at h
  | false =>
    rw [Manifest.load_of_noNull hnull] at h
    split at h <;> cases h <;> trivial

theorem unitIn_of_package (hload : Manifest.load t (directory.join manifestName) = .ok manifest)
    {package : List (Value × Value)} (hpackage : manifest.table? "package" = some package) :
    unitIn t directory
      = packageUnit t directory (directory.join manifestName) manifest package := by
  rw [unitIn_of_isFile (Manifest.isFile_of_load hload), hload]
  simp only [hpackage]

/-- **What comes of the crate in a directory**: it has the first candidate that is a file, or it is
refused, and for lack of a root file only if it has none. -/
theorem unitIn_root_cases (t : FileTree) (directory : Path) :
    (∃ u candidates, unitIn t directory = .ok u ∧ u.directory = directory ∧
      RootCandidates t directory candidates ∧ t.IsFirstFile candidates u.rootFile) ∨
    ∃ f, unitIn t directory = .error f ∧ ∀ x, f = .diagnostic x → x.Justified t := by
  cases hprobe : t.probe t.isFile (directory.join manifestName) with
  | error f =>
    obtain ⟨fault, -, rfl⟩ := FileTree.probe_eq_error_iff.1 hprobe
    exact .inr ⟨_, by rw [unitIn, hprobe], by simp⟩
  | ok hasManifest =>
    obtain ⟨-, hfile⟩ := FileTree.probe_eq_ok_iff.1 hprobe
    cases hasManifest with
    | false =>
      refine .inr ⟨enumerationFailure directory .noManifest, by rw [unitIn, hprobe], ?_⟩
      rintro x ⟨⟩
      trivial
    | true =>
      cases hload : Manifest.load t (directory.join manifestName) with
      | error f =>
        refine .inr ⟨f, by rw [unitIn_of_isFile hfile, hload], ?_⟩
        rintro x rfl
        exact justified_of_load hload
      | ok manifest =>
        have hcandidates := rootCandidates_of_load hload
        cases hpackage : manifest.table? "package" with
        | none =>
          refine .inr ⟨enumerationFailure (directory.join manifestName) .noPackage, ?_, ?_⟩
          · rw [unitIn_of_isFile hfile, hload]
            simp only [hpackage]
          · rintro x ⟨⟩
            trivial
        | some package =>
          rw [unitIn_of_package hload hpackage]
          rcases packageUnit_cases t directory (directory.join manifestName) manifest package with
            ⟨rootFile, hfirst, hunit⟩ | ⟨hnone, hunit⟩ | ⟨fault, blocked, -, hunit⟩
          · exact .inl ⟨_, _, hunit, rfl, hcandidates, hfirst⟩
          · refine .inr ⟨_, hunit, ?_⟩
            rintro x ⟨⟩
            exact ⟨directory, rfl, _, hcandidates, hnone⟩
          · exact .inr ⟨_, hunit, by simp⟩

theorem unitIn_eq_ok (h : unitIn t directory = .ok u) : u.directory = directory ∧
    ∃ candidates, RootCandidates t directory candidates ∧
      t.IsFirstFile candidates u.rootFile := by
  rcases unitIn_root_cases t directory with ⟨v, candidates, hv, hd, hc, hf⟩ | ⟨f, herror, -⟩
  · cases h.symm.trans hv
    exact ⟨hd, candidates, hc, hf⟩
  · cases h.symm.trans herror

theorem justified_of_unitIn {x : Diagnostic} (h : unitIn t directory = .error (.diagnostic x)) :
    x.Justified t := by
  rcases unitIn_root_cases t directory with ⟨v, candidates, hv, -⟩ | ⟨f, herror, hjustified⟩
  · cases h.symm.trans hv
  · cases h.symm.trans herror
    exact hjustified x rfl

/-- The crate of a manifest's own package is the crate in its directory. -/
theorem ownUnit_of_load (hload : Manifest.load t (directory.join manifestName) = .ok manifest) :
    ownUnit t directory (directory.join manifestName) manifest = .ok [] ∨
    ownUnit t directory (directory.join manifestName) manifest
      = (unitIn t directory).map fun u => [u] := by
  rw [ownUnit]
  cases hpackage : manifest.table? "package" with
  | none => exact .inl rfl
  | some package =>
    refine .inr ?_
    rw [unitIn_of_package hload hpackage]

theorem unitIn_of_mem_own (hload : Manifest.load t (directory.join manifestName) = .ok manifest)
    {own : List CrateUnit}
    (h : ownUnit t directory (directory.join manifestName) manifest = .ok own) (hu : u ∈ own) :
    unitIn t directory = .ok u := by
  rcases ownUnit_of_load hload with hnone | hown
  · cases h.symm.trans hnone
    exact absurd hu List.not_mem_nil
  · rw [h] at hown
    cases hunit : unitIn t directory with
    | error f =>
      rw [hunit] at hown
      cases hown
    | ok v =>
      rw [hunit] at hown
      cases hown
      rw [List.mem_singleton.1 hu]

theorem unitIn_of_ownUnit_error
    (hload : Manifest.load t (directory.join manifestName) = .ok manifest) {f : Failure}
    (h : ownUnit t directory (directory.join manifestName) manifest = .error f) :
    unitIn t directory = .error f := by
  rcases ownUnit_of_load hload with hnone | hown
  · cases h.symm.trans hnone
  · rw [h] at hown
    cases hunit : unitIn t directory with
    | error f' =>
      rw [hunit] at hown
      cases hown
      rfl
    | ok v =>
      rw [hunit] at hown
      cases hown

/-! ## All crates -/

variable {e : Enumeration}

/-- Where the crates come from: the root of a directory without a manifest, or the package and the
members of a manifest. -/
theorem discover_eq_ok (h : (discover t directory).result = .ok e) :
    (t.IsAbsent (manifestAt t directory) ∧ ∃ rootFile,
      Placement.crateRoot? t (t.resolve directory) = .ok (some rootFile) ∧
      e = ⟨[⟨(t.resolve directory).name, t.resolve directory, rootFile⟩], []⟩) ∨
    ∃ manifest own members, Manifest.load t (manifestAt t directory) = .ok manifest ∧
      ownUnit t (t.resolve directory) (manifestAt t directory) manifest = .ok own ∧
      (enumerate t members (own.map CrateUnit.directory) ⟨own, []⟩).result = .ok e := by
  rw [← discoverBy_search] at h
  refine (discoverBy_eq_ok h).imp_right ?_
  rintro ⟨manifest, own, hload, hown, hmembers⟩
  cases hworkspace : Value.lookup? manifest "workspace" with
  | none =>
    rw [hworkspace] at hmembers
    exact ⟨manifest, own, [], hload, hown, hmembers⟩
  | some workspace =>
    rw [hworkspace] at hmembers
    cases workspace with
    | map entries => exact ⟨manifest, own, _, hload, hown, (withMembersBy_eq_ok hmembers).2⟩
    | _ => exact ⟨manifest, own, [], hload, hown, hmembers⟩

/-- An enumeration with a result has what comes of the members. -/
theorem enumerate_eq_ok {members seen : List Path} {own : List CrateUnit}
    (h : (enumerate t members seen ⟨own, []⟩).result = .ok e) :
    (∀ u ∈ e.units, u ∈ own ∨ ∃ d ∈ members, unitIn t d = .ok u) ∧
    ∀ x ∈ e.errors, ∃ d ∈ members, unitIn t d = .error (.diagnostic x) := by
  have hresult := enumerate_of_legible (legible_of_enumerate h) ⟨own, []⟩
  rw [h] at hresult
  cases hresult
  have hmember : ∀ d ∈ unseen members seen, d ∈ members := fun d hd => (mem_unseen.1 hd).1
  constructor
  · intro u hu
    refine (List.mem_append.1 hu).imp_right fun hu => ?_
    obtain ⟨d, hd, hunit⟩ := List.mem_filterMap.1 hu
    cases hd' : unitIn t d with
    | error f =>
      rw [hd'] at hunit
      cases hunit
    | ok v =>
      rw [hd'] at hunit
      cases hunit
      exact ⟨d, hmember d hd, hd'⟩
  · intro x hx
    obtain ⟨d, hd, hfault⟩ := List.mem_filterMap.1 (by simpa using hx)
    refine ⟨d, hmember d hd, ?_⟩
    rw [fault?] at hfault
    split at hfault
    · cases hfault
      assumption
    · cases hfault

/-- **Every crate that is enumerated has the first of its candidates that is a file.** -/
theorem enumerated_of_discover (h : (discover t directory).result = .ok e) (hu : u ∈ e.units) :
    ∃ candidates, RootCandidates t u.directory candidates ∧
      t.IsFirstFile candidates u.rootFile := by
  have hunit : ∀ d, unitIn t d = .ok u → ∃ candidates, RootCandidates t u.directory candidates ∧
      t.IsFirstFile candidates u.rootFile := by
    intro d hd
    obtain ⟨rfl, hcandidates⟩ := unitIn_eq_ok hd
    exact hcandidates
  rcases discover_eq_ok h with ⟨hnone, rootFile, hroot, rfl⟩ |
    ⟨manifest, own, members, hload, hown, henumerate⟩
  · obtain rfl := List.mem_singleton.1 hu
    exact ⟨_, .bare hnone.2, FileTree.firstFile?_eq_some_iff.1 hroot⟩
  · rcases (enumerate_eq_ok henumerate).1 u hu with hu | ⟨d, -, hd⟩
    · exact hunit _ (unitIn_of_mem_own hload hown hu)
    · exact hunit d hd

/-- What is reported about members is justified. -/
theorem justified_of_errors (h : (discover t directory).result = .ok e) {x : Diagnostic}
    (hx : x ∈ e.errors) : x.Justified t := by
  rcases discover_eq_ok h with ⟨-, rootFile, -, rfl⟩ | ⟨manifest, own, members, -, -, henumerate⟩
  · exact absurd hx List.not_mem_nil
  · obtain ⟨d, -, hd⟩ := (enumerate_eq_ok henumerate).2 x hx
    exact justified_of_unitIn hd

/-- The refusal of an enumeration is justified. -/
theorem justified_of_failure {x : Diagnostic}
    (h : (discover t directory).result = .error (.diagnostic x)) : x.Justified t := by
  rcases Logged.result_andThen_eq_error h with h | ⟨root, -, h⟩
  · exact (FailsWith.canonical directory).ofExcept x h
  rcases Logged.result_andThen_eq_error h with h | ⟨hasManifest, hprobe, h⟩
  · exact (FailsWith.probe _ _).ofExcept x h
  rw [Logged.result_ofExcept] at hprobe
  split at h
  · rcases Logged.result_andThen_eq_error h with h | ⟨manifest, hload, h⟩
    · rw [Logged.result_ofExcept] at h
      exact justified_of_load h
    rw [Logged.result_ofExcept] at hload
    rcases Logged.result_andThen_eq_error h with h | ⟨own, -, h⟩
    · rw [Logged.result_ofExcept] at h
      exact justified_of_unitIn (unitIn_of_ownUnit_error hload h)
    rcases Logged.result_andThen_eq_error h with h | ⟨e, -, h⟩
    · exact failsWith_withMembers _ own _ x h
    split at h
    · cases h
      trivial
    · cases h
  · rename_i hnone
    obtain rfl := Bool.eq_false_iff.2 hnone
    rcases Logged.result_andThen_eq_error h with h | ⟨rootFile, hroot, h⟩
    · exact (FailsWith.firstFile? _).ofExcept x h
    rw [Logged.result_ofExcept] at hroot
    cases rootFile with
    | some rootFile => cases h
    | none =>
      cases h
      exact ⟨_, .bare (FileTree.probe_eq_ok_iff.1 hprobe).2,
        FileTree.firstFile?_eq_none_iff.1 hroot⟩

end Workspace

/-! ## Reading the root -/

/-- **The text of a file is lost** exactly if the file may not be read, its resolved path is too
long, or it is no text. -/
theorem Source.exists_readText_eq_error_iff {l : Location} {octets : List Nat}
    (h : t.LeadsToFile file l octets) :
    (∃ reason, readText t (t.resolve file) = .error (.unreadable (t.resolve file) reason)) ↔
      t.denies l .read = true ∨ FileTree.isOverlong (.ofLocation l) = true ∨
        ¬Text.IsUtf8 octets := by
  rw [readText, h.read_resolve, ← Text.exists_decode_eq_error_iff]
  cases FileTree.isOverlong (.ofLocation l) with
  | true => simp
  | false =>
    cases t.denies l .read with
    | true => simp
    | false => cases hdecode : Text.decode octets <;> simp [hdecode]

namespace Analysis

/-- The diagnostics of the crates that are lost are those of reading their roots. -/
theorem mem_lost_iff {units : List CrateUnit} {lost : List Diagnostic} (h : AreLost t units lost)
    {d : Diagnostic} :
    d ∈ lost ↔ ∃ u ∈ units, Source.readText t (t.resolve u.rootFile) = .error d := by
  have hmap : (units.filter fun u => !u.isReadable t).map
      (fun u => Source.readText t (t.resolve u.rootFile)) = lost.map .error := by
    rw [← List.forall₂_eq_eq_eq, List.forall₂_map_left_iff, List.forall₂_map_right_iff]
    exact h.imp fun u d hd => hd.1
  have herror : d ∈ lost ↔ (.error d : Except Diagnostic String) ∈ lost.map .error := by simp
  rw [herror, ← hmap, List.mem_map]
  constructor
  · rintro ⟨u, hu, hd⟩
    exact ⟨u, (List.mem_filter.1 hu).1, hd⟩
  · rintro ⟨u, hu, hd⟩
    refine ⟨u, List.mem_filter.2 ⟨hu, ?_⟩, hd⟩
    rw [CrateUnit.isReadable, hd]
    rfl

/-- The only crate is lost if its root cannot be read. -/
theorem ofDirectory_of_unreadable_root {u : CrateUnit} {l : Location} {octets : List Nat}
    {d : Diagnostic} (parse : Source.Parser) (exclude : List String) (tests : Bool)
    (h : (Workspace.discover t directory).result = .ok ⟨[u], []⟩)
    (hnull : u.rootFile.hasNull = false) (hleads : t.LeadsToFile u.rootFile l octets)
    (hread : Source.readText t (t.resolve u.rootFile) = .error d) :
    (ofDirectory parse t directory exclude tests).result = .ok ⟨[], [d]⟩ := by
  obtain ⟨_, rfl⟩ := Source.readText_eq_error hread
  have hcanonical := FileTree.canonical_of_locate hnull hleads.locate
  rw [result_ofDirectory h,
    result_ofUnits_of_diagnostic (Build.graph_of_unreadable_root u.name hcanonical hread)]
  rfl

end Analysis

namespace Workspace

variable {e : Enumeration}

/-- What the enumeration reports is not about reading. -/
theorem unreadable_not_mem_errors (h : (discover t directory).result = .ok e) (reason : String) :
    .unreadable file reason ∉ e.errors := by
  intro hmem
  rcases discover_eq_ok h with ⟨-, rootFile, -, rfl⟩ | ⟨manifest, own, members, -, -, henumerate⟩
  · exact List.not_mem_nil hmem
  · obtain ⟨d, -, hd⟩ := (enumerate_eq_ok henumerate).2 _ hmem
    rcases unitIn_cases t d with ⟨u, hu⟩ | ⟨place, fault, hfault, -⟩ | ⟨f, hf, hu⟩
    · cases hd.symm.trans hu
    · cases hd.symm.trans hfault
    · cases hd.symm.trans hu
      cases hf.isFatal

namespace Sample

open Build.Sample (crateTree demo)

/-- A manifest that names a file for the library, nothing for the first binary, and a file for the
second one. -/
def binaryManifest : String := "[package]\n[lib]\npath='x'\n[[bin]]\npath=1\n[[bin]]\npath='b'"

/-- A crate at the top without the file for the library.  That for the binary is no text. -/
def binaryTree : FileTree where
  entries := [(["Cargo.toml"], .file (binaryManifest.toList.map Char.toNat)), (["b"], .file [0xFF]),
    (["src"], .directory), (["src", "main.rs"], .file [])]
  here := []

/-- The crate. -/
def binaryUnit : CrateUnit := ⟨"", top, ⟨.top, ["b"]⟩⟩

/-- A crate whose root may not be read. -/
def deniedTree : FileTree :=
  { crateTree [] with denied := [(["demo", "src", "lib.rs"], .read)] }

end Sample

end Workspace

end CrateAtlas
