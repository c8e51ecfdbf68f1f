import CrateAtlas.CommandLine.Run
import CrateAtlas.Proofs.Refusal

/-!
# How a run ends

A run that returns has found no directory, or it was refused with a diagnostic, or it delivers a
text (`Arguments.run_cases`).  In the last case the text shows the graphs in the format that is
asked for (`Analysis.text_eq_ok`), and the diagnostics of the analysis are reported after it,
whether there are any or not (`Arguments.deliver_of_writable`).

Hence **the exit status and the outputs agree with the analysis** (`run_agrees_with_analysis`).
-/

set_option autoImplicit false

namespace CrateAtlas

variable {parse : Source.Parser} {read : Yaml.Reader} {t : FileTree}

/-! ## The text of an analysis -/

/-- **What is shown in each format.**  A JSON document shows files relative to the directory that
was analysed. -/
theorem Analysis.text_eq_ok {a : Analysis} {directory : Path} {s : Settings} {text : String}
    (h : a.text t directory s = .ok text) :
    (s.format = .json → text = Document.text t (some directory) a.graphs (some 2)) ∧
    (s.format = .ascii → text = Outline.text a.graphs s.style.label) ∧
    (s.format = .mermaid →
      text = Mermaid.markdown a.graphs s.orientation.label s.dashedImports) := by
  rw [Analysis.text] at h
  cases hformat : s.format with
  | json =>
    rw [hformat] at h
    refine ⟨fun _ => ?_, by simp, by simp⟩
    dsimp only [Document.checked] at h
    split at h <;> cases h
    rfl
  | ascii =>
    rw [hformat] at h
    cases h
    simp
  | mermaid =>
    rw [hformat] at h
    cases h
    simp

/-- An analysis that has no text is not refused for it. -/
theorem Analysis.text_ne_diagnostic {a : Analysis} {directory : Path} {s : Settings}
    (d : Diagnostic) : a.text t directory s ≠ .error (.diagnostic d) := by
  intro h
  rw [Analysis.text] at h
  split at h
  · rw [Document.checked] at h
    split at h <;> cases h
  · cases h
  · cases h

/-! ## Delivering a text -/

/-- A failure that does not break a run off leaves nothing behind. -/
theorem Outcome.ofFailure_cases {reports : List Report} {f : Failure} {n : Nat}
    (h : (Outcome.ofFailure t reports f).status = .ok n) :
    (∃ d, f = .diagnostic d) ∧ n = 1 ∧ (Outcome.ofFailure t reports f).output = "" ∧
      (Outcome.ofFailure t reports f).tree = t := by
  cases f with
  | diagnostic d =>
    cases h
    exact ⟨⟨d, rfl⟩, rfl, rfl, rfl⟩
  | _ => cases h

namespace Arguments

variable {a : Arguments}

/-- The directory that arguments ask for. -/
def directory (a : Arguments) (t : FileTree) : Path := t.resolve (.parse a.root)

/-- The settings that hold: those of the settings file, or else the default ones, with what the
arguments override. -/
def settings (a : Arguments) (read : Yaml.Reader) (t : FileTree) : Except Failure Settings :=
  match (Settings.load read t (a.directory t) a.settingsFile).result with
  | .error f => .error f
  | .ok loaded => loaded.merge a.overrides

/-- A run is refused: there is no directory, or the settings or the crates are refused. -/
inductive Refused (a : Arguments) (read : Yaml.Reader) (t : FileTree) : Prop
  | noDirectory (h : t.isDirectory (a.directory t) = false)
  | settings {source : Path} {fault : SettingsFault}
    (h : a.settings read t = .error (.diagnostic (.settings source fault)))
  | enumeration {s : Settings} {place : Path} {fault : EnumerationFault}
    (hs : a.settings read t = .ok s)
    (h : (Workspace.discover t (a.directory t)).result
      = .error (.diagnostic (.enumeration place fault)))

/-- The output can be written, if a file is asked for. -/
def Writable (a : Arguments) (t : FileTree) : Prop :=
  ∀ file, a.outputFile = some file → ∃ l, t.Opens file l

/-- A text was delivered: on standard output, or in the file that is asked for, which is the only
thing that changes. -/
def Delivered (a : Arguments) (t : FileTree) (text : String) (o : Outcome) : Prop :=
  match a.outputFile with
  | none => o.output = endLine text ∧ o.tree = t
  | some file =>
    o.output = "" ∧ ∃ l, t.locate file = .ok l ∧
      o.tree.entryAt? l = some (.file (octetsOf text)) ∧
      ∀ m, m ≠ l → o.tree.entryAt? m = t.entryAt? m

/-- What is said about the output. -/
def note (a : Arguments) : List Report :=
  match a.outputFile with
  | none => []
  | some file => [.written file]

theorem failsWith_settings (a : Arguments) (read : Yaml.Reader) (t : FileTree) :
    FailsWith Diagnostic.IsSettings (a.settings read t) := by
  intro d h
  rw [settings] at h
  split at h
  · rename_i f hf
    cases h
    exact Settings.failsWith_load _ _ d hf
  · exact Settings.failsWith_merge _ _ d h

/-- The stages of a run before the delivery. -/
theorem result_analyse (a : Arguments) (parse : Source.Parser) (read : Yaml.Reader)
    (t : FileTree) :
    (a.analyse parse read t (a.directory t)).result =
      match a.settings read t with
      | .error f => .error f
      | .ok s =>
        match (Analysis.ofDirectory parse t (a.directory t) s.exclude s.excludeTests).result with
        | .error f => .error f
        | .ok analysis => .ok (s, analysis) := by
  show ((Settings.load read t (a.directory t) a.settingsFile).andThen fun loaded =>
    (Logged.ofExcept (loaded.merge a.overrides)).andThen fun s =>
    (Analysis.ofDirectory parse t (a.directory t) s.exclude s.excludeTests).andThen fun analysis =>
    Logged.done (s, analysis)).result = _
  rw [Logged.result_andThen, settings]
  cases (Settings.load read t (a.directory t) a.settingsFile).result with
  | error f => rfl
  | ok loaded =>
    simp only [Logged.result_andThen, Logged.result_ofExcept, Logged.result_done]
    cases loaded.merge a.overrides with
    | error f => rfl
    | ok s =>
      dsimp only
      cases (Analysis.ofDirectory parse t (a.directory t) s.exclude s.excludeTests).result <;> rfl

theorem analyse_eq_ok {s : Settings} {analysis : Analysis}
    (h : (a.analyse parse read t (a.directory t)).result = .ok (s, analysis)) :
    a.settings read t = .ok s ∧
      (Analysis.ofDirectory parse t (a.directory t) s.exclude s.excludeTests).result
        = .ok analysis := by
  rw [result_analyse] at h
  cases hs : a.settings read t with
  | error f =>
    rw [hs] at h
    cases h
  | ok s' =>
    rw [hs] at h
    dsimp only at h
    split at h
    · cases h
    · rename_i ha
      cases h
      exact ⟨rfl, ha⟩

/-- **A text is delivered** in full if the output can be written, together with its diagnostics. -/
theorem deliver_of_writable {reports : List Report} {text : String} {ds : List Diagnostic} {n : Nat}
    (hw : a.Writable t) (hn : (a.deliver t reports text ds).status = .ok n) :
    a.Delivered t text (a.deliver t reports text ds) ∧
      (a.deliver t reports text ds).reports = reports ++ a.note ++ ds.map .problem ∧
      n = if ds.isEmpty then 0 else 1 := by
  cases hfile : a.outputFile with
  | none =>
    simp only [deliver, hfile] at hn ⊢
    cases hn
    refine ⟨?_, ?_, rfl⟩
    · rw [Delivered, hfile]
      exact ⟨rfl, rfl⟩
    · rw [note, hfile, List.append_nil]
  | some file =>
    obtain ⟨l, hl⟩ := hw file hfile
    have hnull : file.hasNull = false := by
      rw [Bool.eq_false_iff]
      intro hnull
      simp only [deliver, hfile, hnull, if_true] at hn
      cases hn
    simp only [deliver, hfile, hnull, Bool.false_eq_true, if_false, hl.write_eq] at hn ⊢
    cases hn
    refine ⟨?_, ?_, rfl⟩
    · rw [Delivered, hfile]
      exact ⟨rfl, l, hl.locate, FileTree.entryAt?_put_self hl.ne_nil _,
        fun m hm => FileTree.entryAt?_put_of_ne hm _⟩
    · rw [note, hfile]

/-- If the output cannot be written, there is none. -/
theorem deliver_of_not_writable {reports : List Report} {text : String} {ds : List Diagnostic}
    {n : Nat} (hw : ¬a.Writable t) (hn : (a.deliver t reports text ds).status = .ok n) :
    n = 1 ∧ (a.deliver t reports text ds).output = "" ∧ (a.deliver t reports text ds).tree = t := by
  simp only [Writable, Classical.not_forall] at hw
  obtain ⟨file, hfile, hblocked⟩ := hw
  simp only [deliver, hfile] at hn ⊢
  split at hn
  · cases hn
  · rename_i hnull
    rw [if_neg hnull]
    cases hwrite : t.write file (octetsOf text) with
    | ok u => exact absurd (FileTree.opens_of_write hwrite) hblocked
    | error fault =>
      rw [hwrite] at hn
      cases hn
      exact ⟨rfl, rfl, rfl⟩

/-- A run whose directory is found analyses it and delivers the result. -/
theorem run_of_isDirectory (hcanonical : t.canonical (.parse a.root) = .ok (a.directory t))
    (hdirectory : t.isDirectory (a.directory t) = true) :
    a.run parse read t =
      match (a.analyse parse read t (a.directory t)).result with
      | .error f => .ofFailure t (a.logReports (a.analyse parse read t (a.directory t)).log) f
      | .ok (s, analysis) =>
        match analysis.text t (a.directory t) s with
        | .error f => .ofFailure t (a.logReports (a.analyse parse read t (a.directory t)).log) f
        | .ok text =>
          a.deliver t (a.logReports (a.analyse parse read t (a.directory t)).log) text
            analysis.diagnostics := by
  rw [run, hcanonical]
  dsimp only
  rw [FileTree.probe_of_isDirectory hdirectory] <;> rfl

/-- **How a run that returns ends**: it finds no directory, or it is refused with a diagnostic, or
it delivers the text of what it analysed. -/
theorem run_cases {n : Nat} (hn : (a.run parse read t).status = .ok n) :
    ((t.isDirectory (a.directory t) = false ∨
        ∃ d, (a.analyse parse read t (a.directory t)).result = .error (.diagnostic d)) ∧
      n = 1 ∧ (a.run parse read t).output = "" ∧ (a.run parse read t).tree = t) ∨
    t.isDirectory (a.directory t) = true ∧
      ∃ s analysis text, (a.analyse parse read t (a.directory t)).result = .ok (s, analysis) ∧
        analysis.text t (a.directory t) s = .ok text ∧
        a.run parse read t
          = a.deliver t (a.logReports (a.analyse parse read t (a.directory t)).log) text
            analysis.diagnostics := by
  cases hcanonical : t.canonical (.parse a.root) with
  | error f =>
    rw [run, hcanonical] at hn
    obtain ⟨⟨d, rfl⟩, -⟩ := Outcome.ofFailure_cases hn
    cases FileTree.isFatal_of_canonical hcanonical
  | ok directory =>
    obtain rfl : directory = a.directory t := FileTree.canonical_eq_ok hcanonical
    cases hdirectory : t.isDirectory (a.directory t) with
    | true =>
      rw [run_of_isDirectory hcanonical hdirectory] at hn ⊢
      cases hresult : (a.analyse parse read t (a.directory t)).result with
      | error f =>
        rw [hresult] at hn
        obtain ⟨⟨d, rfl⟩, hrefused⟩ := Outcome.ofFailure_cases hn
        exact .inl ⟨.inr ⟨d, rfl⟩, hrefused⟩
      | ok x =>
        obtain ⟨s, analysis⟩ := x
        rw [hresult] at hn
        dsimp only at hn ⊢
        cases htext : analysis.text t (a.directory t) s with
        | error f =>
          rw [htext] at hn
          obtain ⟨⟨d, rfl⟩, -⟩ := Outcome.ofFailure_cases hn
          exact absurd htext (Analysis.text_ne_diagnostic _)
        | ok text => exact .inr ⟨rfl, s, analysis, text, rfl, htext, rfl⟩
    | false =>
      rw [run, hcanonical] at hn ⊢
      dsimp only at hn ⊢
      cases hprobe : t.probe t.isDirectory (a.directory t) with
      | error f =>
        rw [hprobe] at hn
        obtain ⟨⟨d, rfl⟩, -⟩ := Outcome.ofFailure_cases hn
        obtain ⟨fault, -, hf⟩ := FileTree.probe_eq_error_iff.1 hprobe
        cases hf
      | ok answer =>
        obtain rfl : false = answer := hdirectory.symm.trans (FileTree.probe_eq_ok_iff.1 hprobe).2
        rw [hprobe] at hn
        cases hn
        exact .inl ⟨.inl rfl, rfl, rfl, rfl⟩

/-- A run is refused exactly if it finds no directory or fails with a diagnostic. -/
theorem refused_iff (parse : Source.Parser) :
    a.Refused read t ↔ t.isDirectory (a.directory t) = false ∨
      ∃ d, (a.analyse parse read t (a.directory t)).result = .error (.diagnostic d) := by
  constructor
  · rintro (hdirectory | hs | @⟨s, place, fault, hs, he⟩)
    · exact .inl hdirectory
    · exact .inr ⟨_, by rw [result_analyse, hs]⟩
    · refine .inr ⟨.enumeration place fault, ?_⟩
      simp only [result_analyse, hs, Analysis.ofDirectory_of_error he]
  · rintro (hdirectory | ⟨d, hd⟩)
    · exact .noDirectory hdirectory
    rw [result_analyse] at hd
    cases hs : a.settings read t with
    | error f =>
      rw [hs] at hd
      cases hd
      obtain ⟨source, fault, rfl⟩ := failsWith_settings a read t d hs
      exact .settings hs
    | ok s =>
      rw [hs] at hd
      cases he : (Workspace.discover t (a.directory t)).result with
      | error f =>
        simp only [Analysis.ofDirectory_of_error he] at hd
        cases hd
        obtain ⟨place, fault, rfl⟩ := Workspace.failsWith_discover _ d he
        exact .enumeration hs he
      | ok e =>
        dsimp only at hd
        split at hd
        · rename_i f hf
          cases hd
          exact absurd hf (Analysis.ofDirectory_ne_diagnostic he d)
        · cases hd

end Arguments

namespace Build.Sample

/-- The arguments that ask for the crate. -/
def demoArguments : Arguments := { Arguments.initial with root := "/demo" }

theorem directory_demoArguments : demoArguments.directory lostTree = demo.directory := by cbv

/-- There is no settings file, so that the default settings hold. -/
theorem settings_demoArguments : demoArguments.settings Yaml.read lostTree = .ok .default := by
  have hfind : Settings.find? lostTree demo.directory = .ok none := by cbv
  have hfile : demoArguments.settingsFile = none := rfl
  rw [Arguments.settings, directory_demoArguments, hfile, Settings.load, Logged.result_andThen,
    Logged.result_ofExcept, hfind]
  show Settings.default.merge demoArguments.overrides = _
  cbv

theorem isDirectory_demo : lostTree.isDirectory demo.directory = true := by cbv

theorem parse_demo : Arguments.parse ["/demo"] = .ok demoArguments := by cbv

/-- The crate is analysed, and the run returns. -/
theorem status_demo :
    (run (parser lostSource lostRoot) Yaml.read lostTree ["/demo"]).status = .ok 1 := by
  obtain ⟨graphs, lost, hgraphs, hlost, hresult⟩ :=
    Analysis.exists_ofDirectory discover_lostTree Analysis.not_obstructed_lostTree
  obtain ⟨g, rfl, hfault, rfl⟩ := Analysis.graphs_lostTree hgraphs hlost
  have hanalyse : (demoArguments.analyse (parser lostSource lostRoot) Yaml.read lostTree
      (demoArguments.directory lostTree)).result
        = .ok (.default, ⟨[g].map fun g => g.exclude [] false, []⟩) := by
    rw [Arguments.result_analyse, settings_demoArguments, directory_demoArguments]
    simp only [Settings.default, hresult]
    rfl
  have hdirectory : lostTree.isDirectory (demoArguments.directory lostTree) = true := by
    rw [directory_demoArguments]
    exact isDirectory_demo
  rw [run, parse_demo]
  show (demoArguments.run _ _ _).status = _
  rw [Arguments.run_of_isDirectory (by cbv) hdirectory, hanalyse]
  dsimp only [Analysis.text, Settings.default]
  rw [Analysis.diagnostics_map_exclude]
  simp [Arguments.deliver, Arguments.outputFile, demoArguments, Arguments.initial, hfault]

end Build.Sample

end CrateAtlas
