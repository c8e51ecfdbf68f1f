import CrateAtlas.Proofs.CrateAnalysis
import CrateAtlas.Proofs.Enumeration
import CrateAtlas.Settings.File

/-!
# What each stage refuses

A run reads settings, enumerates crates and analyses them.  Only the first two refuse anything, and
each with diagnostics of its own kind: `Settings.failsWith_load` and `Settings.failsWith_merge` for
the settings, `Workspace.failsWith_discover` for the crates.  The analysis refuses nothing
(`Analysis.ofDirectory_ne_diagnostic`).

`FailsWith` says that all diagnostics with which a computation fails are of some kind.  It goes
through the steps of a computation one by one, and other failures do not matter to it.
-/

set_option autoImplicit false

namespace CrateAtlas

variable {parse : Source.Parser} {read : Yaml.Reader} {t : FileTree}

/-! ## Kinds of failures -/

/-- Every diagnostic with which a computation fails is of some kind. -/
def FailsWith {α : Type} (kind : Diagnostic → Prop) (x : Except Failure α) : Prop :=
  ∀ d, x = .error (.diagnostic d) → kind d

/-- A diagnostic about settings. -/
def Diagnostic.IsSettings (d : Diagnostic) : Prop := ∃ source fault, d = .settings source fault

/-- A diagnostic about a crate or a member of a workspace. -/
def Diagnostic.IsEnumeration (d : Diagnostic) : Prop := ∃ place fault, d = .enumeration place fault

namespace FailsWith

variable {α β : Type} {kind : Diagnostic → Prop}

theorem ok (a : α) : FailsWith kind (.ok a) := by
  intro d h
  cases h

theorem bind {x : Except Failure α} {f : α → Except Failure β} (hx : FailsWith kind x)
    (hf : ∀ a, FailsWith kind (f a)) : FailsWith kind (x >>= f) := by
  intro d h
  cases x with
  | ok a => exact hf a d h
  | error f =>
    cases h
    exact hx d rfl

theorem map {x : Except Failure α} {f : α → β} (hx : FailsWith kind x) :
    FailsWith kind (x.map f) := by
  intro d h
  cases x with
  | ok a => cases h
  | error f =>
    cases h
    exact hx d rfl

theorem mapM {xs : List α} {f : α → Except Failure β} (hf : ∀ a, FailsWith kind (f a)) :
    FailsWith kind (xs.mapM f) := by
  induction xs with
  | nil => exact ok []
  | cons x xs ih =>
    rw [List.mapM_cons]
    exact (hf x).bind fun b => ih.bind fun bs => ok (b :: bs)

theorem andThen {x : Logged α} {f : α → Logged β} (hx : FailsWith kind x.result)
    (hf : ∀ a, FailsWith kind (f a).result) : FailsWith kind (x.andThen f).result := by
  intro d h
  rw [Logged.result_andThen] at h
  cases hr : x.result with
  | ok a =>
    rw [hr] at h
    exact hf a d h
  | error f =>
    rw [hr] at h
    cases h
    exact hx d hr

theorem ofExcept {x : Except Failure α} (hx : FailsWith kind x) :
    FailsWith kind (Logged.ofExcept x).result := by
  rw [Logged.result_ofExcept]
  exact hx

theorem of_isFatal {x : Except Failure α} (h : ∀ f, x = .error f → f.isFatal = true) :
    FailsWith kind x := by
  intro d hd
  cases h _ hd

theorem checked (p : Path) : FailsWith kind p.checked := by
  intro d h
  rw [Path.checked] at h
  cases hn : p.hasNull <;> simp [hn] at h

theorem canonical (p : Path) : FailsWith kind (t.canonical p) :=
  of_isFatal fun _ => FileTree.isFatal_of_canonical

theorem probe (question : Path → Bool) (p : Path) : FailsWith kind (t.probe question p) := by
  refine of_isFatal fun f hf => ?_
  obtain ⟨fault, -, rfl⟩ := FileTree.probe_eq_error_iff.1 hf
  rfl

theorem firstFile? (ps : List Path) : FailsWith kind (t.firstFile? ps) := by
  refine of_isFatal fun f hf => ?_
  obtain ⟨fault, p, -, rfl⟩ := FileTree.firstFile?_eq_error_iff.1 hf
  rfl

end FailsWith

/-! ## Settings -/

namespace Settings

theorem failsWith_mapError {α : Type} (source : Path) (x : Except SettingsFault α) :
    FailsWith Diagnostic.IsSettings (x.mapError (failure source)) := by
  intro d h
  cases x with
  | ok a => cases h
  | error fault =>
    cases h
    exact ⟨source, fault, rfl⟩

theorem failsWith_readYaml (file : Path) :
    FailsWith Diagnostic.IsSettings (readYaml read t file) := by
  intro d h
  rw [readYaml] at h
  split at h
  · cases h
    exact ⟨_, _, rfl⟩
  · rw [ofYaml.eq_def] at h
    split at h
    · cases h
    · cases h
      exact ⟨_, _, rfl⟩
    · cases h
    · cases h
    · cases h
    · cases h
      exact ⟨_, _, rfl⟩

theorem failsWith_readDocument (file : Path) :
    FailsWith Diagnostic.IsSettings (readDocument t file) := by
  intro d h
  rw [readDocument] at h
  split at h
  · cases h
  · cases h
    exact ⟨_, _, rfl⟩
  · cases h
  · cases h
    exact ⟨_, _, rfl⟩
  · cases h

theorem failsWith_collect (source : Path) (entries : List (Value × Value)) (given : Given) :
    FailsWith Diagnostic.IsSettings (collect source entries given) := by
  induction entries generalizing given with
  | nil => exact FailsWith.ok given
  | cons entry rest ih =>
    rw [collect]
    split
    · intro d h
      cases h
    · split
      · exact ih _
      · intro d h
        cases h
        exact ⟨_, _, rfl⟩

theorem failsWith_ofValue (source : Path) (v : Value) :
    FailsWith Diagnostic.IsSettings (ofValue source v) := by
  rw [ofValue.eq_def]
  split
  · exact (failsWith_collect source _ []).bind fun given => failsWith_mapError source _
  · intro d h
    cases h

theorem failsWith_ofFile (file : Path) : FailsWith Diagnostic.IsSettings (ofFile read t file) := by
  rw [ofFile]
  split
  · exact (FailsWith.checked file).bind fun file' =>
      (failsWith_readYaml file').bind fun v => failsWith_ofValue file v
  · split
    · exact (FailsWith.checked file).bind fun file' =>
        (failsWith_readDocument file').bind fun document => failsWith_ofValue file _
    · intro d h
      cases h
      exact ⟨_, _, rfl⟩

theorem failsWith_find? (directory : Path) :
    FailsWith Diagnostic.IsSettings (find? t directory) := by
  intro d h
  simp only [find?] at h
  split at h
  · rename_i f hf
    cases h
    exact FailsWith.firstFile? _ d hf
  · cases h
  · split at h
    · rename_i f hf
      cases h
      exact FailsWith.probe _ _ d hf
    · rw [findIn?] at h
      split at h <;> cases h
    · cases h

theorem failsWith_ofGiven (file : Path) :
    FailsWith Diagnostic.IsSettings (ofGiven read t file) := by
  rw [ofGiven]
  split
  · rename_i f hf
    intro d h
    cases h
    exact FailsWith.probe _ _ d hf
  · exact failsWith_ofFile file
  · exact failsWith_mapError file (.error .noFile)

/-- Settings are refused with diagnostics about settings. -/
theorem failsWith_load (directory : Path) (file : Option Path) :
    FailsWith Diagnostic.IsSettings (load read t directory file).result := by
  rw [load.eq_def]
  split
  · rw [Logged.result_ofExcept]
    exact failsWith_ofGiven _
  · refine FailsWith.andThen ?_ fun found => ?_
    · rw [Logged.result_ofExcept]
      exact failsWith_find? directory
    · split
      · rw [Logged.result_after, Logged.result_ofExcept]
        exact failsWith_ofFile _
      · exact FailsWith.ok _

theorem failsWith_merge (s : Settings) (overrides : Given) :
    FailsWith Diagnostic.IsSettings (s.merge overrides) := by
  simp only [merge]
  split
  · intro d h
    cases h
  · split
    · exact FailsWith.ok s
    · exact failsWith_mapError commandLine _

end Settings

/-! ## Crates -/

namespace Workspace

theorem failsWith_load (file : Path) :
    FailsWith Diagnostic.IsEnumeration (Manifest.load t file) := by
  intro d h
  cases hnull : file.hasNull with
  | true =>
    rw [Manifest.load, Path.checked, hnull] at h
    cases h
  | false =>
    rcases Manifest.load_cases (t := t) hnull with
      ⟨manifest, hload⟩ | ⟨fault, hload⟩ | ⟨octets, f, -, hf, hload⟩
    · cases hload.symm.trans h
    · cases hload.symm.trans h
      exact ⟨file, fault, rfl⟩
    · cases hload.symm.trans h
      cases hf

theorem failsWith_packageUnit (directory manifestPath : Path) (manifest : Manifest)
    (package : List (Value × Value)) :
    FailsWith Diagnostic.IsEnumeration
      (packageUnit t directory manifestPath manifest package) := by
  intro d h
  rcases packageUnit_cases t directory manifestPath manifest package with
    ⟨rootFile, -, hu⟩ | ⟨-, hu⟩ | ⟨fault, file, -, hu⟩
  · cases h.symm.trans hu
  · cases h.symm.trans hu
    exact ⟨_, _, rfl⟩
  · cases h.symm.trans hu

theorem failsWith_ownUnit (root manifestPath : Path) (manifest : Manifest) :
    FailsWith Diagnostic.IsEnumeration (ownUnit t root manifestPath manifest) := by
  rw [ownUnit]
  split
  · exact FailsWith.ok []
  · exact (failsWith_packageUnit _ _ _ _).map

/-- The enumeration of members does not fail with a diagnostic. -/
theorem failsWith_enumerate {kind : Diagnostic → Prop} (directories seen : List Path)
    (e : Enumeration) : FailsWith kind (enumerate t directories seen e).result := by
  refine FailsWith.of_isFatal fun f hf => ?_
  obtain ⟨c, -, hbreaks⟩ := breaksOff_of_enumerate hf
  exact hbreaks.isFatal

theorem failsWith_listed (entries : List (Value × Value)) (name : String) :
    FailsWith (fun _ => False) (listed entries name) := by
  rw [listed]
  split
  · exact FailsWith.ok []
  · split
    · exact FailsWith.ok []
    · intro d h
      rw [itemsOf.eq_def] at h
      split at h <;> cases h

theorem failsWith_excluded (root : Path) (entries : List (Value × Value)) :
    FailsWith (fun _ => False) (excluded t root entries) := by
  rw [excluded]
  refine (failsWith_listed entries "exclude").bind fun items => FailsWith.mapM fun v => ?_
  split
  · exact FailsWith.canonical _
  · intro d h
    cases h

theorem failsWith_eligible {kind : Diagnostic → Prop} (found : Found) :
    FailsWith kind (eligible t found) := by
  refine FailsWith.of_isFatal fun f hf => ?_
  rcases eligible_cases t found with ⟨g, hg, herror⟩ | ⟨-, hok⟩
  · cases hf.symm.trans herror
    cases hg with
    | hidden _ h => cases h <;> rfl
    | cut => rfl
  · cases hf.symm.trans hok

theorem failsWith_matching (root : Path) (entry : Value) :
    FailsWith (fun _ => False) (matching t root entry) := by
  rw [matching.eq_def]
  split
  · split
    · rw [expand]
      split
      · intro d h
        cases h
      · exact failsWith_eligible _
    · exact (FailsWith.canonical _).map
  · exact FailsWith.ok []

theorem failure_collect_ne (root : Path) (excluded : List Path) (entries : List Value)
    (d : Diagnostic) : (collect t root excluded entries).failure ≠ some (.diagnostic d) := by
  induction entries with
  | nil => simp [collect]
  | cons entry rest ih =>
    rw [collect]
    split
    · rename_i f hf
      intro h
      cases h
      exact failsWith_matching root entry d hf
    · exact ih

/-- The list of members does not fail with a diagnostic. -/
theorem failure_members_ne (root : Path) (workspace : Value) (d : Diagnostic) :
    (members t root workspace).failure ≠ some (.diagnostic d) := by
  rw [members.eq_def]
  split
  · split
    · rename_i hexcluded
      intro h
      cases h
      exact failsWith_excluded root _ d hexcluded
    · split
      · rename_i hlisted
        intro h
        cases h
        exact failsWith_listed _ "members" d hlisted
      · exact failure_collect_ne root _ _ d
  · intro h
    cases h

theorem failsWith_withMembers {kind : Diagnostic → Prop} (root : Path) (own : List CrateUnit)
    (workspace : Option Value) : FailsWith kind (withMembers t root own workspace).result := by
  rw [withMembers.eq_def]
  split
  · rename_i entries
    refine FailsWith.andThen (failsWith_enumerate _ _ _) fun e => ?_
    split
    · rename_i f hf
      intro d h
      cases h
      exact absurd hf (failure_members_ne root (.map entries) d)
    · exact FailsWith.ok e
  · exact FailsWith.ok _

/-- The enumeration of crates is refused with diagnostics about crates. -/
theorem failsWith_discover (directory : Path) :
    FailsWith Diagnostic.IsEnumeration (discover t directory).result := by
  have hfailure : ∀ place fault, FailsWith Diagnostic.IsEnumeration
      (Logged.fail (enumerationFailure place fault) : Logged Enumeration).result := by
    intro place fault d h
    cases h
    exact ⟨place, fault, rfl⟩
  rw [discover]
  refine FailsWith.andThen (FailsWith.canonical directory).ofExcept fun root => ?_
  refine FailsWith.andThen (FailsWith.probe _ _).ofExcept fun hasManifest => ?_
  split
  · refine FailsWith.andThen (failsWith_load _).ofExcept fun manifest => ?_
    refine FailsWith.andThen (failsWith_ownUnit _ _ _).ofExcept fun own => ?_
    refine FailsWith.andThen (failsWith_withMembers _ _ _) fun e => ?_
    split
    · exact hfailure _ _
    · exact FailsWith.ok e
  · refine FailsWith.andThen (FailsWith.firstFile? _).ofExcept fun rootFile => ?_
    split
    · exact FailsWith.ok _
    · exact hfailure _ _

end Workspace

namespace Analysis

variable {exclude : List String} {tests : Bool}

theorem ofDirectory_of_error {directory : Path} {f : Failure}
    (h : (Workspace.discover t directory).result = .error f) :
    (ofDirectory parse t directory exclude tests).result = .error f := by
  rw [ofDirectory, Logged.result_andThen, h]

/-- **How the analysis of the crates of a directory ends**: it runs into something, or it has the
graphs of the crates that can be read, without what is excluded, and the diagnostics of the
enumeration and of the other crates. -/
theorem ofDirectory_cases {directory : Path} {e : Workspace.Enumeration}
    (h : (Workspace.discover t directory).result = .ok e) (parse : Source.Parser)
    (exclude : List String) (tests : Bool) :
    (∃ f, f.isFatal = true ∧ (ofDirectory parse t directory exclude tests).result = .error f) ∨
    ∃ graphs lost, AreGraphs parse t e.units graphs ∧ AreLost t e.units lost ∧
      (ofDirectory parse t directory exclude tests).result
        = .ok ⟨graphs.map fun g => g.exclude exclude tests, e.errors ++ lost⟩ := by
  by_cases hmet : ∃ u ∈ e.units, Build.Obstructed parse t u.rootFile
  · obtain ⟨u, f, -, hf, hresult⟩ := ofUnits_of_obstructed hmet
    exact .inl ⟨f, hf.isFatal, by rw [result_ofDirectory h, hresult]⟩
  · obtain ⟨graphs, lost, hgraphs, hlost, hresult⟩ :=
      exists_ofDirectory h fun u hu hn => hmet ⟨u, hu, hn⟩
    exact .inr ⟨graphs, lost, hgraphs, hlost, hresult exclude tests⟩

/-- The analysis of crates refuses nothing. -/
theorem ofDirectory_ne_diagnostic {directory : Path} {e : Workspace.Enumeration}
    (h : (Workspace.discover t directory).result = .ok e) (d : Diagnostic) :
    (ofDirectory parse t directory exclude tests).result ≠ .error (.diagnostic d) := by
  intro hd
  rcases ofDirectory_cases h parse exclude tests with ⟨f, hf, herror⟩ | ⟨_, _, -, -, hok⟩
  · cases hd.symm.trans herror
    cases hf
  · cases hd.symm.trans hok

/-- An analysis is that of the crates that were enumerated. -/
theorem exists_of_ofDirectory {directory : Path} {analysis : Analysis}
    (h : (ofDirectory parse t directory exclude tests).result = .ok analysis) :
    ∃ e graphs lost, (Workspace.discover t directory).result = .ok e ∧
      AreGraphs parse t e.units graphs ∧ AreLost t e.units lost ∧
      analysis = ⟨graphs.map fun g => g.exclude exclude tests, e.errors ++ lost⟩ := by
  cases he : (Workspace.discover t directory).result with
  | error f => cases h.symm.trans (ofDirectory_of_error he)
  | ok e =>
    rcases ofDirectory_cases he parse exclude tests with
      ⟨f, -, herror⟩ | ⟨graphs, lost, hgraphs, hlost, hok⟩
    · cases h.symm.trans herror
    · cases h.symm.trans hok
      exact ⟨e, graphs, lost, rfl, hgraphs, hlost, rfl⟩

end Analysis

end CrateAtlas
