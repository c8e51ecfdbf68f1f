import CrateAtlas.Proofs.TreeShape

/-!
# The enumeration of members

The members of a workspace are enumerated one after the other, each at most once.  A member leads to
a crate, or to a diagnostic that says why it does not, and either is added to what is there already.
So the crates and the diagnostics of a workspace are those of its members, in order
(`Workspace.enumerate_of_legible`).

There are members for which this fails (`Workspace.BreaksOff`).  From octets that are not UTF-8 and
from a number with too many digits comes no diagnostic but a failure of another kind
(`Manifest.Illegible`), and so it does where it cannot be found out whether a file is there.  Such a
failure ends the whole enumeration (`Workspace.enumerate_of_breaksOff`).

The list of members may end it, too: `Workspace.EntryFails` says why an entry stands for nothing.
-/

set_option autoImplicit false

namespace CrateAtlas

variable {t : FileTree}

/-! ## One manifest -/

/-- Octets that end the enumeration instead of being reported: they are not UTF-8, or a number in
them has too many digits. -/
inductive Manifest.Illegible : List Nat → Failure → Prop
  | notText {octets : List Nat} {fault : Text.Utf8Fault} (h : Text.decode octets = .error fault) :
    Illegible octets (.undecodable fault)
  | longNumber {octets : List Nat} {cs : List Char} {count : Nat}
    (hd : Text.decode octets = .ok cs)
    (hp : Toml.parse (String.ofList cs) = .error (.tooManyDigits count)) :
    Illegible octets (.scalar (.tooManyDigits count))

theorem Manifest.load_of_noNull {file : Path} (hnull : file.hasNull = false) :
    Manifest.load t file =
      match readToml t file with
      | .ok manifest => .ok manifest
      | .error (.unreadable fault) => .error (enumerationFailure file (.unreadable fault.message))
      | .error (.undecodable fault) => .error (.undecodable fault)
      | .error (.malformed .invalid) => .error (enumerationFailure file .invalid)
      | .error (.malformed (.tooManyDigits count)) => .error (.scalar (.tooManyDigits count)) := by
  rw [Manifest.load, Path.checked, hnull]
  rfl

/-- **How the reading of a manifest ends**: with the manifest, with a diagnostic about its file, or
with a failure of another kind if its octets are illegible. -/
theorem Manifest.load_cases {file : Path} (hnull : file.hasNull = false) :
    (∃ manifest, Manifest.load t file = .ok manifest) ∨
    (∃ fault, Manifest.load t file = .error (enumerationFailure file fault)) ∨
    ∃ octets f, t.read file = .ok octets ∧ Illegible octets f ∧
      Manifest.load t file = .error f := by
  rw [Manifest.load_of_noNull hnull]
  cases hread : t.read file with
  | error fault =>
    have htoml : readToml t file = .error (.unreadable fault) := by simp only [readToml, hread]
    rw [htoml]
    exact .inr (.inl ⟨_, rfl⟩)
  | ok octets =>
    cases hd : Text.decode octets with
    | error fault =>
      have htoml : readToml t file = .error (.undecodable fault) := by
        simp only [readToml, hread, hd]
      rw [htoml]
      exact .inr (.inr ⟨octets, _, rfl, .notText hd, rfl⟩)
    | ok cs =>
      have htoml : readToml t file = (Toml.parse (String.ofList cs)).mapError .malformed := by
        simp only [readToml, hread, hd]
      rw [htoml]
      cases hp : Toml.parse (String.ofList cs) with
      | ok manifest => exact .inl ⟨manifest, rfl⟩
      | error fault =>
        cases fault with
        | invalid => exact .inr (.inl ⟨_, rfl⟩)
        | tooManyDigits count => exact .inr (.inr ⟨octets, _, rfl, .longNumber hd hp, rfl⟩)

theorem Manifest.load_of_illegible {file : Path} (hnull : file.hasNull = false) {octets : List Nat}
    {f : Failure} (hread : t.read file = .ok octets) (h : Illegible octets f) :
    Manifest.load t file = .error f := by
  rw [Manifest.load_of_noNull hnull, readToml, hread]
  cases h with
  | notText hd => simp only [hd]
  | longNumber hd hp =>
    simp only [hd, hp]
    rfl

/-- What can be loaded is a file. -/
theorem Manifest.isFile_of_load {file : Path} {manifest : Manifest}
    (h : Manifest.load t file = .ok manifest) : t.isFile file = true := by
  cases hnull : file.hasNull with
  | true => simp [Manifest.load, Path.checked, hnull, Except.bind] at h
  | false =>
    rw [Manifest.load_of_noNull hnull] at h
    cases hread : t.read file with
    | error fault => simp [readToml, hread] at h
    | ok octets => exact FileTree.isFile_of_read hnull hread

/-- **What comes of a package**: a crate with the first root file that is there, a diagnostic if
there is none, or the end of the enumeration where that cannot be found out. -/
theorem packageUnit_cases (t : FileTree) (directory manifestPath : Path) (manifest : Manifest)
    (package : List (Value × Value)) :
    (∃ rootFile, t.IsFirstFile (manifest.rootCandidates directory) rootFile ∧
      packageUnit t directory manifestPath manifest package
        = .ok ⟨crateName package directory, directory, rootFile⟩) ∨
    ((∀ file ∈ manifest.rootCandidates directory, t.IsAbsent file) ∧
      packageUnit t directory manifestPath manifest package
        = .error (enumerationFailure manifestPath (.noRootFile (crateName package directory)))) ∨
    ∃ fault file, t.IsFirstBlocked (manifest.rootCandidates directory) fault file ∧
      packageUnit t directory manifestPath manifest package = .error (.blocked fault file) := by
  rw [packageUnit]
  rcases t.firstFile?_cases (manifest.rootCandidates directory) with
    ⟨rootFile, h⟩ | h | ⟨fault, file, h⟩
  · rw [FileTree.firstFile?_of_isFirstFile h]
    exact .inl ⟨rootFile, h, rfl⟩
  · rw [FileTree.firstFile?_of_forall h]
    exact .inr (.inl ⟨h, rfl⟩)
  · rw [FileTree.firstFile?_of_isFirstBlocked h]
    exact .inr (.inr ⟨fault, file, h, rfl⟩)

namespace Workspace

/-! ## One member -/

/-- **How a member ends the enumeration**: it cannot be found out whether its manifest is there, the
manifest is illegible, or it cannot be found out whether a file that may be the root is there. -/
inductive BreaksOff (t : FileTree) (directory : Path) : Failure → Prop
  | manifest {fault : AccessFault}
    (h : t.obstacle? (directory.join manifestName) = some fault) :
    BreaksOff t directory (.blocked fault (directory.join manifestName))
  | illegible {octets : List Nat} {f : Failure}
    (hfile : t.isFile (directory.join manifestName) = true)
    (hread : t.read (directory.join manifestName) = .ok octets) (h : Manifest.Illegible octets f) :
    BreaksOff t directory f
  | root {manifest : Manifest} {package : List (Value × Value)} {fault : AccessFault} {file : Path}
    (hload : Manifest.load t (directory.join manifestName) = .ok manifest)
    (hpackage : manifest.table? "package" = some package)
    (h : t.IsFirstBlocked (manifest.rootCandidates directory) fault file) :
    BreaksOff t directory (.blocked fault file)

theorem BreaksOff.isFatal {directory : Path} {f : Failure} (h : BreaksOff t directory f) :
    f.isFatal = true := by
  cases h with
  | manifest => rfl
  | illegible _ _ h => cases h <;> rfl
  | root => rfl

/-- What is reported about a member. -/
def fault? (t : FileTree) (directory : Path) : Option Diagnostic :=
  match unitIn t directory with
  | .error (.diagnostic d) => some d
  | _ => none

theorem unitIn_of_isFile {directory : Path} (h : t.isFile (directory.join manifestName) = true) :
    unitIn t directory =
      match Manifest.load t (directory.join manifestName) with
      | .error f => .error f
      | .ok manifest =>
        match manifest.table? "package" with
        | none => .error (enumerationFailure (directory.join manifestName) .noPackage)
        | some package =>
          packageUnit t directory (directory.join manifestName) manifest package := by
  rw [unitIn, FileTree.probe_of_isFile h] <;> rfl

/-- **What comes of a member**: a crate, a diagnostic about the member or its manifest, or the end
of the enumeration. -/
theorem unitIn_cases (t : FileTree) (directory : Path) :
    (∃ u, unitIn t directory = .ok u) ∨
    (∃ place fault, unitIn t directory = .error (.diagnostic (.enumeration place fault)) ∧
      (place = directory ∨ place = directory.join manifestName)) ∨
    ∃ f, BreaksOff t directory f ∧ unitIn t directory = .error f := by
  cases hfile : t.isFile (directory.join manifestName) with
  | false =>
    cases ho : t.obstacle? (directory.join manifestName) with
    | some fault =>
      refine .inr (.inr ⟨_, .manifest ho, ?_⟩)
      rw [unitIn, FileTree.probe_eq_error_iff.2 ⟨fault, ho, rfl⟩]
    | none =>
      refine .inr (.inl ⟨directory, .noManifest, ?_, .inl rfl⟩)
      rw [unitIn, FileTree.probe_of_isAbsent ⟨ho, hfile⟩]
      rfl
  | true =>
    rw [unitIn_of_isFile hfile]
    rcases Manifest.load_cases (FileTree.hasNull_of_isFile hfile) with
      ⟨manifest, hload⟩ | ⟨fault, hload⟩ | ⟨octets, f, hread, hf, hload⟩
    · rw [hload]
      cases hpackage : manifest.table? "package" with
      | none => exact .inr (.inl ⟨_, .noPackage, by simp only [hpackage]; rfl, .inr rfl⟩)
      | some package =>
        simp only [hpackage]
        rcases packageUnit_cases t directory (directory.join manifestName) manifest package with
          ⟨rootFile, -, hu⟩ | ⟨-, hu⟩ | ⟨fault, file, hblocked, hu⟩
        · exact .inl ⟨_, hu⟩
        · exact .inr (.inl ⟨_, .noRootFile _, hu, .inr rfl⟩)
        · exact .inr (.inr ⟨_, .root hload hpackage hblocked, hu⟩)
    · rw [hload]
      exact .inr (.inl ⟨_, fault, rfl, .inr rfl⟩)
    · rw [hload]
      exact .inr (.inr ⟨f, .illegible hfile hread hf, rfl⟩)

theorem unitIn_of_breaksOff {directory : Path} {f : Failure} (h : BreaksOff t directory f) :
    unitIn t directory = .error f := by
  cases h with
  | manifest h => rw [unitIn, FileTree.probe_eq_error_iff.2 ⟨_, h, rfl⟩]
  | illegible hfile hread h =>
    rw [unitIn_of_isFile hfile,
      Manifest.load_of_illegible (FileTree.hasNull_of_isFile hfile) hread h]
  | root hload hpackage h =>
    rw [unitIn_of_isFile (Manifest.isFile_of_load hload), hload]
    simp only [hpackage, packageUnit, FileTree.firstFile?_of_isFirstBlocked h]

theorem breaksOff_iff {directory : Path} {f : Failure} :
    BreaksOff t directory f ↔ unitIn t directory = .error f ∧ f.isFatal = true := by
  refine ⟨fun h => ⟨unitIn_of_breaksOff h, h.isFatal⟩, fun ⟨h, hfatal⟩ => ?_⟩
  rcases unitIn_cases t directory with ⟨u, hu⟩ | ⟨place, fault, hu, -⟩ | ⟨g, hg, hu⟩
  · cases h.symm.trans hu
  · cases h.symm.trans hu
    cases hfatal
  · cases h.symm.trans hu
    exact hg

/-- A member with a crate or with a diagnostic does not end the enumeration. -/
theorem not_breaksOff_of_ok {directory : Path} {u : CrateUnit} (h : unitIn t directory = .ok u)
    (f : Failure) : ¬BreaksOff t directory f := by
  intro hf
  cases h.symm.trans (unitIn_of_breaksOff hf)

theorem not_breaksOff_of_diagnostic {directory : Path} {d : Diagnostic}
    (h : unitIn t directory = .error (.diagnostic d)) (f : Failure) :
    ¬BreaksOff t directory f := by
  intro hf
  cases h.symm.trans (unitIn_of_breaksOff hf)
  cases hf.isFatal

theorem fault?_of_ok {directory : Path} {u : CrateUnit} (h : unitIn t directory = .ok u) :
    fault? t directory = none := by
  rw [fault?, h]

theorem fault?_of_diagnostic {directory : Path} {d : Diagnostic}
    (h : unitIn t directory = .error (.diagnostic d)) : fault? t directory = some d := by
  rw [fault?, h]

/-! ## All members -/

/-- The directories that are met for the first time. -/
def unseen : List Path → List Path → List Path
  | [], _ => []
  | directory :: rest, seen =>
    if seen.contains directory then unseen rest seen
    else directory :: unseen rest (directory :: seen)

theorem mem_unseen {directory : Path} {directories seen : List Path} :
    directory ∈ unseen directories seen ↔ directory ∈ directories ∧ directory ∉ seen := by
  fun_induction unseen directories seen with
  | case1 seen => simp
  | case2 d rest seen hseen ih =>
    have hd : d ∈ seen := by simpa using hseen
    rw [ih, List.mem_cons]
    constructor
    · exact fun h => ⟨.inr h.1, h.2⟩
    · rintro ⟨rfl | h, hn⟩
      · exact absurd hd hn
      · exact ⟨h, hn⟩
  | case3 d rest seen hseen ih =>
    have hd : d ∉ seen := by simpa using hseen
    rw [List.mem_cons, ih, List.mem_cons, List.mem_cons, not_or]
    by_cases heq : directory = d
    · simp [heq, hd]
    · simp [heq]

theorem nodup_unseen (directories seen : List Path) : (unseen directories seen).Nodup := by
  fun_induction unseen directories seen with
  | case1 seen => exact .nil
  | case2 d rest seen hseen ih => exact ih
  | case3 d rest seen hseen ih =>
    refine List.nodup_cons.2 ⟨fun hd => ?_, ih⟩
    exact (mem_unseen.1 hd).2 List.mem_cons_self

section Step

variable {d : Path} {rest seen : List Path} {e : Enumeration}

theorem enumerate_of_seen (hseen : seen.contains d = true) :
    enumerate t (d :: rest) seen e = enumerate t rest seen e := by
  rw [enumerate, if_pos hseen]

theorem result_enumerate_of_ok (hseen : ¬seen.contains d = true) {u : CrateUnit}
    (h : unitIn t d = .ok u) :
    (enumerate t (d :: rest) seen e).result
      = (enumerate t rest (d :: seen) { e with units := e.units ++ [u] }).result := by
  rw [enumerate, if_neg hseen, h]

theorem result_enumerate_of_diagnostic (hseen : ¬seen.contains d = true) {place : Path}
    {fault : EnumerationFault} (h : unitIn t d = .error (.diagnostic (.enumeration place fault))) :
    (enumerate t (d :: rest) seen e).result
      = (enumerate t rest (d :: seen)
          { e with errors := e.errors ++ [.enumeration place fault] }).result := by
  rw [enumerate, if_neg hseen, h]
  rfl

theorem result_enumerate_of_breaksOff (hseen : ¬seen.contains d = true) {f : Failure}
    (h : BreaksOff t d f) : (enumerate t (d :: rest) seen e).result = .error f := by
  rw [enumerate, if_neg hseen, unitIn_of_breaksOff h]
  have hfatal := h.isFatal
  cases f with
  | diagnostic d => cases hfatal
  | _ => rfl

end Step

/-- **The members of a workspace are enumerated one by one**, if none of them ends the
enumeration. -/
theorem enumerate_of_legible {directories seen : List Path}
    (h : ∀ d ∈ unseen directories seen, ∀ f, ¬BreaksOff t d f) (e : Enumeration) :
    (enumerate t directories seen e).result
      = .ok ⟨e.units ++ (unseen directories seen).filterMap (fun d => (unitIn t d).toOption),
          e.errors ++ (unseen directories seen).filterMap (fault? t)⟩ := by
  induction directories generalizing seen e with
  | nil => simp [enumerate, unseen]
  | cons d rest ih =>
    by_cases hseen : seen.contains d = true
    · rw [unseen, if_pos hseen] at h ⊢
      rw [enumerate_of_seen hseen, ih h]
    · rw [unseen, if_neg hseen] at h ⊢
      obtain ⟨hd, hrest⟩ := List.forall_mem_cons.1 h
      rcases unitIn_cases t d with ⟨u, hu⟩ | ⟨place, fault, hu, -⟩ | ⟨f, hf, -⟩
      · rw [result_enumerate_of_ok hseen hu, ih hrest]
        simp [hu, fault?_of_ok hu, Except.toOption]
      · rw [result_enumerate_of_diagnostic hseen hu, ih hrest]
        simp [hu, fault?_of_diagnostic hu, Except.toOption]
      · exact absurd hf (hd f)

/-- A member that ends the enumeration ends it with its own failure. -/
theorem enumerate_of_breaksOff {directories seen : List Path}
    (h : ∃ d ∈ unseen directories seen, ∃ f, BreaksOff t d f) (e : Enumeration) :
    ∃ d ∈ unseen directories seen, ∃ f, BreaksOff t d f ∧
      (enumerate t directories seen e).result = .error f := by
  induction directories generalizing seen e with
  | nil => simp [unseen] at h
  | cons d rest ih =>
    by_cases hseen : seen.contains d = true
    · rw [unseen, if_pos hseen] at h ⊢
      rw [enumerate_of_seen hseen]
      exact ih h e
    · rw [unseen, if_neg hseen] at h ⊢
      by_cases hd : ∃ f, BreaksOff t d f
      · obtain ⟨f, hf⟩ := hd
        exact ⟨d, List.mem_cons_self, f, hf, result_enumerate_of_breaksOff hseen hf⟩
      · have hrest : ∃ c ∈ unseen rest (d :: seen), ∃ f, BreaksOff t c f := by simpa [hd] using h
        have hnext : ∃ next, (enumerate t (d :: rest) seen e).result
            = (enumerate t rest (d :: seen) next).result := by
          rcases unitIn_cases t d with ⟨u, hu⟩ | ⟨place, fault, hu, -⟩ | ⟨f, hf, -⟩
          · exact ⟨_, result_enumerate_of_ok hseen hu⟩
          · exact ⟨_, result_enumerate_of_diagnostic hseen hu⟩
          · exact absurd ⟨f, hf⟩ hd
        obtain ⟨next, hnext⟩ := hnext
        obtain ⟨c, hc, f, hf, hresult⟩ := ih hrest next
        exact ⟨c, List.mem_cons_of_mem d hc, f, hf, hnext.trans hresult⟩

/-- An enumeration without a result was ended by a member. -/
theorem breaksOff_of_enumerate {directories seen : List Path} {e : Enumeration} {f : Failure}
    (h : (enumerate t directories seen e).result = .error f) :
    ∃ d ∈ unseen directories seen, BreaksOff t d f := by
  by_cases hbreaks : ∃ d ∈ unseen directories seen, ∃ f, BreaksOff t d f
  · obtain ⟨d, hd, f', hf, hresult⟩ := enumerate_of_breaksOff hbreaks e
    cases h.symm.trans hresult
    exact ⟨d, hd, hf⟩
  · have hlegible : ∀ d ∈ unseen directories seen, ∀ f, ¬BreaksOff t d f :=
      fun d hd f hf => hbreaks ⟨d, hd, f, hf⟩
    cases h.symm.trans (enumerate_of_legible hlegible e)

/-! ## Directories that were found -/

/-- It cannot be found out whether a path leads to a member. -/
inductive Hidden (t : FileTree) (p : Path) : Failure → Prop
  | directory {fault : AccessFault} (h : t.obstacle? p = some fault) :
    Hidden t p (.blocked fault p)
  | manifest {fault : AccessFault} (hd : t.isDirectory p = true) (ht : p.name ∉ toolDirectories)
    (h : t.obstacle? (p.join manifestName) = some fault) :
    Hidden t p (.blocked fault (p.join manifestName))

/-- Whether a path leads to a member, as far as can be found out. -/
def leadsToMember (t : FileTree) (p : Path) : Bool :=
  t.isDirectory p && !toolDirectories.contains p.name && t.isFile (p.join manifestName)

theorem isMember_cases (t : FileTree) (p : Path) :
    (∃ f, Hidden t p f ∧ isMember t p = .error f) ∨
      (∀ f, ¬Hidden t p f) ∧ isMember t p = .ok (leadsToMember t p) := by
  rw [isMember, leadsToMember]
  cases ho : t.obstacle? p with
  | some fault =>
    rw [FileTree.probe_eq_error_iff.2 ⟨fault, ho, rfl⟩]
    exact .inl ⟨_, .directory ho, rfl⟩
  | none =>
    cases hd : t.isDirectory p with
    | false =>
      refine .inr ⟨fun f hf => ?_, by rw [FileTree.probe_eq_ok_iff.2 ⟨ho, hd⟩]; rfl⟩
      cases hf with
      | directory h => cases ho.symm.trans h
      | manifest hd' => cases hd.symm.trans hd'
    | true =>
      rw [FileTree.probe_eq_ok_iff.2 ⟨ho, hd⟩]
      by_cases ht : p.name ∈ toolDirectories
      · refine .inr ⟨fun f hf => ?_, by simp [ht]⟩
        cases hf with
        | directory h => cases ho.symm.trans h
        | manifest _ ht' => exact ht' ht
      · cases hm : t.obstacle? (p.join manifestName) with
        | some fault =>
          refine .inl ⟨_, .manifest hd ht hm, ?_⟩
          simp [ht, FileTree.probe_eq_error_iff.2 ⟨fault, hm, rfl⟩]
        | none =>
          refine .inr ⟨fun f hf => ?_, ?_⟩
          · cases hf with
            | directory h => cases ho.symm.trans h
            | manifest _ _ h => cases hm.symm.trans h
          · simp [ht, FileTree.probe_eq_ok_iff.2 ⟨hm, rfl⟩]

/-- **The members among the paths that were found** are those that lead to members, if that can be
found out about each of them. -/
theorem membersAmong_cases (t : FileTree) (found : List Path) :
    (∃ p ∈ found, ∃ f, Hidden t p f ∧ membersAmong t found = .error f) ∨
      (∀ p ∈ found, ∀ f, ¬Hidden t p f) ∧
        membersAmong t found = .ok ((found.filter (leadsToMember t)).map t.resolve) := by
  induction found with
  | nil => exact .inr ⟨by simp, rfl⟩
  | cons p rest ih =>
    rw [membersAmong]
    rcases isMember_cases t p with ⟨f, hf, hp⟩ | ⟨hclear, hp⟩
    · rw [hp]
      exact .inl ⟨p, List.mem_cons_self, f, hf, rfl⟩
    · rw [hp]
      cases hmember : leadsToMember t p with
      | false =>
        rw [List.filter_cons_of_neg (by simp [hmember])]
        rcases ih with ⟨q, hq, f, hf, hrest⟩ | ⟨hrest, hok⟩
        · exact .inl ⟨q, List.mem_cons_of_mem p hq, f, hf, hrest⟩
        · exact .inr ⟨List.forall_mem_cons.2 ⟨hclear, hrest⟩, hok⟩
      | true =>
        have hd : t.isDirectory p = true := by simp_all [leadsToMember]
        rw [List.filter_cons_of_pos hmember, FileTree.canonical_of_isDirectory hd]
        rcases ih with ⟨q, hq, f, hf, hrest⟩ | ⟨hrest, hok⟩
        · exact .inl ⟨q, List.mem_cons_of_mem p hq, f, hf, by rw [hrest]⟩
        · exact .inr ⟨List.forall_mem_cons.2 ⟨hclear, hrest⟩, by rw [hok]; rfl⟩

/-- How a search breaks off: at a path about which it cannot be found out whether it leads to a
member, or before it has come to its end. -/
inductive SearchFails (t : FileTree) (found : Found) : Failure → Prop
  | hidden {p : Path} {f : Failure} (hp : p ∈ found.paths) (h : Hidden t p f) :
    SearchFails t found f
  | cut {fault : AccessFault} {p : Path} (h : found.fault = some (fault, p)) :
    SearchFails t found (.blocked fault p)

theorem eligible_cases (t : FileTree) (found : Found) :
    (∃ f, SearchFails t found f ∧ eligible t found = .error f) ∨
      (∀ f, ¬SearchFails t found f) ∧ eligible t found
        = .ok (Path.sort ((found.paths.filter (leadsToMember t)).map t.resolve)) := by
  rw [eligible]
  rcases membersAmong_cases t found.paths with ⟨p, hp, f, hf, hfound⟩ | ⟨hclear, hfound⟩
  · rw [hfound]
    exact .inl ⟨f, .hidden hp hf, rfl⟩
  · rw [hfound]
    cases hfault : found.fault with
    | some cut => exact .inl ⟨_, .cut hfault, rfl⟩
    | none =>
      refine .inr ⟨fun f hf => ?_, rfl⟩
      cases hf with
      | hidden hp h => exact hclear _ hp _ h
      | cut h => cases hfault.symm.trans h

/-! ## The list of members -/

section List

variable {root : Path} {entries : List (Value × Value)} {patterns exclusions : List String}

/-- **Why an entry of the list of members stands for nothing**: it has no wildcard and cannot be
resolved, or the search for its pattern fails. -/
inductive EntryFails (t : FileTree) (root : Path) (entry : String) : Failure → Prop
  | plain {f : Failure} (hw : Text.hasWildcard entry = false)
    (h : t.canonical (root.join entry) = .error f) : EntryFails t root entry f
  | pattern {found : Found} {f : Failure} (hw : Text.hasWildcard entry = true)
    (hs : t.search root entry = .ok found) (h : SearchFails t found f) :
    EntryFails t root entry f

theorem EntryFails.of_sameShape {u : FileTree} (hshape : FileTree.SameShape t u) {entry : String}
    {f : Failure} (h : EntryFails u root entry f) : EntryFails t root entry f := by
  cases h with
  | plain hw h => exact .plain hw (hshape.canonical_eq _ ▸ h)
  | pattern hw hs h =>
    refine .pattern hw (hshape.search_eq _ _ ▸ hs) ?_
    cases h with
    | cut h => exact .cut h
    | hidden hp h =>
      refine .hidden hp ?_
      cases h with
      | directory h => exact .directory (hshape.obstacle?_eq _ ▸ h)
      | manifest hd ht h =>
        exact .manifest (hshape.isDirectory_eq _ ▸ hd) ht (hshape.obstacle?_eq _ ▸ h)

theorem listed_of_list {name : String} {items : List Value}
    (h : Value.lookup? entries name = some (.list items)) : listed entries name = .ok items := by
  rw [listed, h]
  cases items with
  | nil => rfl
  | cons item rest => rfl

theorem listed_of_none {name : String} (h : Value.lookup? entries name = none) :
    listed entries name = .ok [] := by
  rw [listed, h]

/-- The directories that are left out, if all of them can be resolved. -/
theorem excluded_cases (t : FileTree) (root : Path)
    (h : listed entries "exclude" = .ok (exclusions.map .text)) :
    (∃ p ∈ exclusions, ∃ f, t.canonical (root.join p) = .error f ∧
      excluded t root entries = .error f) ∨
    (∀ p ∈ exclusions, t.canonical (root.join p) = .ok (t.resolve (root.join p))) ∧
      excluded t root entries = .ok (exclusions.map fun p => t.resolve (root.join p)) := by
  rw [excluded, h]
  show (∃ p ∈ exclusions, ∃ f, _ ∧ List.mapM _ (exclusions.map Value.text) = _) ∨
    _ ∧ List.mapM _ (exclusions.map Value.text) = _
  clear h
  induction exclusions with
  | nil => exact .inr ⟨by simp, rfl⟩
  | cons p rest ih =>
    rw [List.map_cons, List.mapM_cons]
    cases hp : t.canonical (root.join p) with
    | error f =>
      refine .inl ⟨p, List.mem_cons_self, f, hp, ?_⟩
      simp only [hp]
      rfl
    | ok directory =>
      obtain rfl := FileTree.canonical_eq_ok hp
      rcases ih with ⟨q, hq, f, hf, hrest⟩ | ⟨hrest, hok⟩
      · refine .inl ⟨q, List.mem_cons_of_mem p hq, f, hf, ?_⟩
        rw [hrest]
        simp only [hp]
        rfl
      · refine .inr ⟨List.forall_mem_cons.2 ⟨hp, hrest⟩, ?_⟩
        rw [hok]
        simp only [hp]
        rfl

/-- A well-formed entry stands for directories, or fails. -/
theorem matching_cases (t : FileTree) (root : Path) {p : String}
    (hp : Text.hasWildcard p = true → ∃ parts, PatternPart.readAll p = .ok parts) :
    (∃ f, EntryFails t root p f ∧ matching t root (.text p) = .error f) ∨
    (∀ f, ¬EntryFails t root p f) ∧
      ∃ found, matching t root (.text p) = .ok found ∧
        (Text.hasWildcard p = false → found = [t.resolve (root.join p)]) := by
  rw [matching]
  cases hw : Text.hasWildcard p with
  | true =>
    obtain ⟨parts, hparts⟩ := hp hw
    obtain ⟨found, hs⟩ : ∃ found, t.search root p = .ok found := by
      rw [FileTree.search, hparts]
      exact ⟨_, rfl⟩
    rw [if_pos rfl, expand, hs]
    rcases eligible_cases t found with ⟨f, hf, hfound⟩ | ⟨hclear, hfound⟩
    · exact .inl ⟨f, .pattern hw hs hf, hfound⟩
    · refine .inr ⟨fun f hf => ?_, _, hfound, by simp⟩
      cases hf with
      | plain hplain => cases hw.symm.trans hplain
      | pattern _ hs' h =>
        cases hs.symm.trans hs'
        exact hclear f h
  | false =>
    have hpattern : ∀ {f}, EntryFails t root p f → t.canonical (root.join p) = .error f := by
      intro f hf
      cases hf with
      | plain _ h => exact h
      | pattern hw' => cases hw.symm.trans hw'
    cases hc : t.canonical (root.join p) with
    | error f => exact .inl ⟨f, .plain hw hc, by simp [Except.map]⟩
    | ok directory =>
      obtain rfl := FileTree.canonical_eq_ok hc
      refine .inr ⟨fun f hf => ?_, [t.resolve (root.join p)], by simp [Except.map], fun _ => rfl⟩
      cases hc.symm.trans (hpattern hf)

/-- The list of members is complete, unless an entry fails. -/
theorem failure_collect_cases (t : FileTree) (root : Path) (excluded : List Path)
    (hp : ∀ p ∈ patterns, Text.hasWildcard p = true → ∃ parts, PatternPart.readAll p = .ok parts) :
    (∃ p ∈ patterns, ∃ f, EntryFails t root p f ∧
      (collect t root excluded (patterns.map .text)).failure = some f) ∨
    (∀ p ∈ patterns, ∀ f, ¬EntryFails t root p f) ∧
      (collect t root excluded (patterns.map .text)).failure = none := by
  induction patterns with
  | nil => exact .inr ⟨by simp, rfl⟩
  | cons p rest ih =>
    obtain ⟨hp, hrest⟩ := List.forall_mem_cons.1 hp
    rw [List.map_cons, collect]
    rcases matching_cases t root hp with ⟨f, hf, hm⟩ | ⟨hclear, found, hm, -⟩
    · rw [hm]
      exact .inl ⟨p, List.mem_cons_self, f, hf, rfl⟩
    · rw [hm]
      rcases ih hrest with ⟨q, hq, f, hf, hfailure⟩ | ⟨hclear', hfailure⟩
      · exact .inl ⟨q, List.mem_cons_of_mem p hq, f, hf, hfailure⟩
      · exact .inr ⟨List.forall_mem_cons.2 ⟨hclear, hclear'⟩, hfailure⟩

/-- An entry without wildcards is among the members, unless it is left out. -/
theorem mem_collect {excluded : List Path}
    (hp : ∀ p ∈ patterns, Text.hasWildcard p = true → ∃ parts, PatternPart.readAll p = .ok parts)
    (hf : (collect t root excluded (patterns.map .text)).failure = none) {p : String}
    (hm : p ∈ patterns) (hw : Text.hasWildcard p = false)
    (hx : t.resolve (root.join p) ∉ excluded) :
    t.resolve (root.join p) ∈ (collect t root excluded (patterns.map .text)).directories := by
  induction patterns with
  | nil => cases hm
  | cons q rest ih =>
    obtain ⟨hq, hrest⟩ := List.forall_mem_cons.1 hp
    rw [List.map_cons, collect] at hf ⊢
    rcases matching_cases t root hq with ⟨f, -, hq⟩ | ⟨-, found, hq, hfound⟩
    · rw [hq] at hf
      cases hf
    · rw [hq] at hf ⊢
      rcases List.mem_cons.1 hm with rfl | hm
      · refine List.mem_append_left _ (List.mem_filter.2 ⟨?_, by simpa using hx⟩)
        rw [hfound hw]
        exact List.mem_singleton_self _
      · exact List.mem_append_right _ (ih hrest hf hm)

end List

end Workspace

end CrateAtlas
