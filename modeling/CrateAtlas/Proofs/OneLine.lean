import CrateAtlas.CommandLine.Run
import CrateAtlas.Proofs.Diagnostics
import CrateAtlas.Proofs.LineBreaks
import CrateAtlas.Proofs.ModulePlaces

/-!
# Diagnostics of one line

Each diagnostic is reported in a line of its own, and so should be without line breaks.  Names of
modules have none, if the parser sees to that (`Source.KeepsLines`), and neither have the paths of
files that were read.  What is left is the text of a `path` attribute: it becomes part of a path as
it is, and the path is reported if nothing is there (`NamedAcrossLines`).

**This is the only way in which a line break gets into a diagnostic**, and it always does
(`diagnostics_one_line_iff`).  The proof goes by the sites at which something is wrong: a module
with a block lies in a place without line breaks (`Declared.oneLine_place`), and a declaration in
the block brings in nothing but its name and its attribute (`Placement.oneLine_file_iff`).
-/

set_option autoImplicit false

namespace CrateAtlas

variable {b : LineBreaks}

/-! ## What is asked of a parser -/

/-- A block that declares modules with names of one line only, with those of its inline modules. -/
inductive Block.OneLineNames (b : LineBreaks) : Block → Prop
  | intro {block : Block} (names : ∀ d ∈ block.declarations, b.OneLine d.name)
      (bodies : ∀ d ∈ block.declarations, ∀ body, d.body = some body → OneLineNames b body) :
      OneLineNames b block

/-- **A parser whose names have no line breaks**: neither those of the modules in a sound tree, nor
that of the kind of node that is missing first in a damaged one. -/
structure Source.KeepsLines (b : LineBreaks) (parse : Source.Parser) : Prop where
  names : ∀ text root, parse text = some root → root.broken = false →
    (Block.ofNode root).OneLineNames b
  kinds : ∀ text root, parse text = some root → root.broken = true →
    (root.firstFault?.getD root).missing = true → b.OneLine (root.firstFault?.getD root).kind

/-- A text that is not Rust is reported in one line, if its file is named in one. -/
theorem Source.KeepsLines.oneLine_parseText {parse : Source.Parser}
    (hparse : Source.KeepsLines b parse) {file : Path} {text : String} {fault : Diagnostic}
    (h : Source.parseText parse file text = .error fault) (hfile : file.OneLine b) :
    b.OneLine fault.message := by
  rw [Source.parseText] at h
  split at h
  · cases h
    exact Diagnostic.oneLine_notRust 0 0 hfile (LineBreaks.oneLine_ofList rfl)
  · rename_i root hroot
    split at h
    · rename_i hbroken
      cases h
      exact Diagnostic.oneLine_notRust _ _ hfile
        (LineBreaks.oneLine_problem (hparse.kinds text root hroot hbroken))
    · cases h

/-! ## Places -/

namespace Placement

variable {t : FileTree} {scope : Scope} {name : String} {place : Placement}

theorem oneLine_ownedDirectory {file : Path} (h : file.OneLine b) (ownsParent : Bool) :
    (ownedDirectory file ownsParent).OneLine b := by
  rw [ownedDirectory]
  split
  · exact h.parent
  · exact (Path.oneLine_join h.parent).2 h.stem

/-- **Where a module without an attribute lies**: in a file of its name, or in a directory of its
name, or nowhere, unless that cannot be found out. -/
theorem ofDeclaration_plain_cases (t : FileTree) (scope : Scope) (name : String) :
    ofDeclaration t scope name false none = .ok ⟨scope.path.child name,
        scope.directory.join (name ++ ".rs"), .external,
        ownedDirectory (scope.directory.join (name ++ ".rs")) false⟩ ∨
      ofDeclaration t scope name false none = .ok ⟨scope.path.child name,
        (scope.directory.join name).join "mod.rs", .external,
        ownedDirectory ((scope.directory.join name).join "mod.rs") true⟩ ∨
      ofDeclaration t scope name false none
        = .error (.diagnostic (.noModuleFile (scope.path.child name).render
          [scope.directory.join (name ++ ".rs"), (scope.directory.join name).join "mod.rs"]
          (some scope.file))) ∨
      ∃ fault p, ofDeclaration t scope name false none = .error (.blocked fault p) := by
  simp only [ofDeclaration, Bool.false_eq_true, if_false]
  split
  · rename_i hprobe
    obtain ⟨fault, -, rfl⟩ := FileTree.probe_eq_error_iff.1 hprobe
    exact .inr (.inr (.inr ⟨fault, _, rfl⟩))
  · exact .inl rfl
  · split
    · rename_i hprobe
      obtain ⟨fault, -, rfl⟩ := FileTree.probe_eq_error_iff.1 hprobe
      exact .inr (.inr (.inr ⟨fault, _, rfl⟩))
    · exact .inr (.inl rfl)
    · exact .inr (.inr (.inl rfl))

/-- The directory of a module in a file of its own is owned by that file. -/
theorem exists_ownedDirectory {override : Option String}
    (h : ofDeclaration t scope name false override = .ok place) :
    ∃ ownsParent, place.directory = ownedDirectory place.file ownsParent := by
  cases override with
  | some target =>
    cases h
    exact ⟨true, rfl⟩
  | none =>
    rcases ofDeclaration_plain_cases t scope name with hplace | hplace | hplace | ⟨_, _, hplace⟩
    · cases h.symm.trans hplace
      exact ⟨false, by dsimp only⟩
    · cases h.symm.trans hplace
      exact ⟨true, by dsimp only⟩
    · cases h.symm.trans hplace
    · cases h.symm.trans hplace

section Names

variable (hdirectory : scope.directory.OneLine b) (hname : b.OneLine name)

include hdirectory hname

/-- The file that has the name of the module. -/
theorem oneLine_direct : (scope.directory.join (name ++ ".rs")).OneLine b :=
  (Path.oneLine_join hdirectory).2
    (LineBreaks.oneLine_append.2 ⟨hname, LineBreaks.oneLine_ofList rfl⟩)

/-- The file in the directory that has the name of the module. -/
theorem oneLine_nested : ((scope.directory.join name).join "mod.rs").OneLine b :=
  (Path.oneLine_join ((Path.oneLine_join hdirectory).2 hname)).2 (LineBreaks.oneLine_ofList rfl)

/-- **Only an attribute brings a line break into the path of a module file.** -/
theorem oneLine_file_iff (hfile : scope.file.OneLine b) {override : Option String}
    (h : ofDeclaration t scope name false override = .ok place) :
    place.file.OneLine b ↔ ∀ target, override = some target → b.OneLine target := by
  cases override with
  | some target =>
    have hbase : (if scope.isInline then scope.directory else scope.file.parent).OneLine b := by
      split
      · exact hdirectory
      · exact hfile.parent
    cases h
    rw [Path.oneLine_join hbase]
    simp
  | none =>
    refine iff_of_true ?_ (by simp)
    rcases ofDeclaration_plain_cases t scope name with hplace | hplace | hplace | ⟨_, _, hplace⟩
    · cases h.symm.trans hplace
      show (scope.directory.join (name ++ ".rs")).OneLine b
      exact oneLine_direct hdirectory hname
    · cases h.symm.trans hplace
      show ((scope.directory.join name).join "mod.rs").OneLine b
      exact oneLine_nested hdirectory hname
    · cases h.symm.trans hplace
    · cases h.symm.trans hplace

/-- A declaration without a file is reported in one line. -/
theorem oneLine_of_error (hfile : scope.file.OneLine b)
    (hpath : ∀ segment ∈ scope.path.segments, b.OneLine segment) {isInline : Bool}
    {override : Option String} {fault : Diagnostic}
    (h : ofDeclaration t scope name isInline override = .error (.diagnostic fault)) :
    b.OneLine fault.message := by
  have hchild : ∀ segment ∈ (scope.path.child name).segments, b.OneLine segment :=
    List.forall_mem_append.2 ⟨hpath, by simpa using hname⟩
  cases isInline with
  | true => cases h
  | false =>
    cases override with
    | some target => cases h
    | none =>
      rcases ofDeclaration_plain_cases t scope name with
        hplace | hplace | hplace | ⟨_, _, hplace⟩
      · cases h.symm.trans hplace
      · cases h.symm.trans hplace
      · cases h.symm.trans hplace
        refine Diagnostic.oneLine_noModuleFile (ModulePath.oneLine_render hchild) ?_ hfile
        simp [oneLine_direct hdirectory hname, oneLine_nested hdirectory hname]
      · cases h.symm.trans hplace

end Names

end Placement

/-! ## Modules of a crate -/

namespace Build

variable {t : FileTree} {parse : Source.Parser} {file : Path} {segments : List String}
  {p c : Pending t} {block : Block} {d : Declaration}

/-- The file of a module is named by an attribute with a line break in it. -/
def NamedAcrossLines (b : LineBreaks) (parse : Source.Parser) (root c : Pending t) : Prop :=
  ∃ segments p d target, Declared parse root segments p ∧ p.Follows parse d c ∧ d.body = none ∧
    d.override = some target ∧ ¬b.OneLine target

theorem Declared.oneLineNames (hparse : Source.KeepsLines b parse)
    (h : Declared parse (rootOf t file) segments p) (hi : p.items parse = .ok block) :
    block.OneLineNames b :=
  h.block_induction
    (fun hread => by
      obtain ⟨text, root, hroot, hsound, rfl⟩ := Source.exists_root_of_readBlock hread
      exact hparse.names text root hroot hsound)
    (fun ⟨_, bodies⟩ hd hb => bodies _ hd _ hb) rfl hi

theorem Declared.oneLine_name (hparse : Source.KeepsLines b parse)
    (h : Declared parse (rootOf t file) segments p) (hi : p.items parse = .ok block)
    (hd : d ∈ block.declarations) : b.OneLine d.name := by
  obtain ⟨names, -⟩ := h.oneLineNames hparse hi
  exact names d hd

theorem Declared.oneLine_segments (hparse : Source.KeepsLines b parse)
    (h : Declared parse (rootOf t file) segments p) : ∀ name ∈ segments, b.OneLine name := by
  induction h with
  | root => simp
  | child h hi hf ih =>
    obtain ⟨d, hd, rfl, -⟩ := hf.exists_declare
    exact List.forall_mem_append.2 ⟨ih, by simpa using h.oneLine_name hparse hi hd⟩

/-- What can be read as a text has a path of one line. -/
theorem oneLine_of_readText (ht : t.OneLine b) {text : String}
    (h : Source.readText t file = .ok text) :
    file.OneLine b ∧ (t.resolve file).OneLine b := by
  rw [Source.readText] at h
  split at h
  · cases h
  · rename_i octets hread
    exact ht.of_read hread

theorem Pending.oneLine_of_items (ht : t.OneLine b) (hb : p.body = none)
    (hi : p.items parse = .ok block) :
    p.place.file.OneLine b ∧ (t.resolve p.place.file).OneLine b := by
  have hread : Source.readBlock parse t p.place.file = .ok block := by
    rw [items, hb] at hi
    exact hi
  rw [Source.readBlock] at hread
  split at hread
  · cases hread
  · rename_i text htext
    exact oneLine_of_readText ht htext

/-- **A module with a block lies in a place of one line.** -/
theorem Declared.oneLine_place (ht : t.OneLine b) (hparse : Source.KeepsLines b parse)
    (h : Declared parse (rootOf t file) segments p) (hi : p.items parse = .ok block) :
    p.place.file.OneLine b ∧ p.place.directory.OneLine b := by
  -- A file that was read has such a path, whatever declared it; an inline module lies in the file
  -- of the module above.
  induction h generalizing block with
  | root =>
    have hfile := (Pending.oneLine_of_items ht rfl hi).1
    exact ⟨hfile, Placement.oneLine_ownedDirectory hfile true⟩
  | child h hi' hf ih =>
    obtain ⟨hfile, hdirectory⟩ := ih hi'
    obtain ⟨d, hd, rfl, hdc⟩ := hf.exists_declare
    obtain ⟨hplace, -, hbody, -⟩ := Pending.declare_eq_ok hdc
    cases hinline : d.isInline with
    | true =>
      rw [hinline, Placement.ofDeclaration_inline] at hplace
      rw [← Except.ok.inj hplace]
      dsimp only [Pending.scope]
      exact ⟨hfile, (Path.oneLine_join hdirectory).2 (h.oneLine_name hparse hi' hd)⟩
    | false =>
      rw [hinline] at hplace
      have hnone : d.body = none := by simpa [Declaration.isInline] using hinline
      have hown := (Pending.oneLine_of_items ht (hbody.trans hnone) hi).1
      obtain ⟨ownsParent, howns⟩ := Placement.exists_ownedDirectory hplace
      rw [howns]
      exact ⟨hown, Placement.oneLine_ownedDirectory hown ownsParent⟩

/-- A module has the body that its declaration has. -/
theorem Pending.Follows.body (h : p.Follows parse d c) : c.body = d.body := by
  obtain ⟨_, _, _, -, -, hdc, -⟩ := h
  exact (declare_eq_ok hdc).2.2.1

/-- The path of a file of its own has a line break exactly if an attribute brings it in. -/
theorem Declared.oneLine_file_iff (ht : t.OneLine b) (hparse : Source.KeepsLines b parse)
    (h : Declared parse (rootOf t file) segments p) (hf : p.Follows parse d c)
    (hd : d.body = none) :
    c.place.file.OneLine b ↔ ∀ target, d.override = some target → b.OneLine target := by
  have hplace := hf.place
  rw [Declaration.isInline, hd] at hplace
  obtain ⟨block, before, after, hi, hds, -, -⟩ := hf
  obtain ⟨hfile, hdirectory⟩ := h.oneLine_place ht hparse hi
  have hname : b.OneLine d.name := h.oneLine_name hparse hi (by simp [hds])
  have hdirectory : p.scope.directory.OneLine b := hdirectory
  exact Placement.oneLine_file_iff hdirectory hname hfile hplace

theorem NamedAcrossLines.not_oneLine (ht : t.OneLine b) (hparse : Source.KeepsLines b parse)
    (h : NamedAcrossLines b parse (rootOf t file) c) : ¬c.place.file.OneLine b := by
  obtain ⟨segments, p, d, target, hp, hf, hd, htarget, hbreak⟩ := h
  rw [hp.oneLine_file_iff ht hparse hf hd]
  exact fun hall => hbreak (hall target htarget)

theorem Declared.namedAcrossLines (ht : t.OneLine b) (hparse : Source.KeepsLines b parse)
    {name : String} (h : Declared parse (rootOf t file) (segments ++ [name]) c)
    (hb : c.body = none) (hbreak : ¬c.place.file.OneLine b) :
    NamedAcrossLines b parse (rootOf t file) c := by
  obtain ⟨p, d, hp, hf, -⟩ := h.exists_follows
  have hd : d.body = none := hf.body.symm.trans hb
  rw [hp.oneLine_file_iff ht hparse hf hd] at hbreak
  simp only [not_forall] at hbreak
  obtain ⟨target, htarget, hbreak⟩ := hbreak
  exact ⟨segments, p, d, target, hp, hf, hd, htarget, hbreak⟩

/-- On the way to a module with a block all modules have one. -/
theorem Declared.exists_items_of_prefix {above : List String} {q : Pending t}
    (h : Declared parse (rootOf t file) segments p) (hi : p.items parse = .ok block)
    (habove : above <+: segments) (hq : Declared parse (rootOf t file) above q) :
    ∃ own, q.items parse = .ok own := by
  induction h generalizing block with
  | root =>
    obtain rfl := List.prefix_nil.1 habove
    obtain rfl := hq.unique .root
    exact ⟨block, hi⟩
  | child h hi' hf ih =>
    rcases List.prefix_concat_iff.1 habove with rfl | habove
    · obtain rfl := hq.unique (.child h hi' hf)
      exact ⟨block, hi⟩
    · exact ih hi' habove

/-! ## Diagnostics of a crate -/

/-- **What is reported has one line**, unless it is about a file with a line break in its name. -/
theorem Reported.oneLine_or (ht : t.OneLine b) (hparse : Source.KeepsLines b parse)
    (hroot : ∀ fault, Source.readText t (t.resolve file) ≠ .error fault) {site : Site}
    {fault : Diagnostic} (h : Reported parse (rootOf t file) site fault) :
    b.OneLine fault.message ∨ ∃ c reason, NamedAcrossLines b parse (rootOf t file) c ∧
      fault = .unreadable c.place.file reason := by
  cases h with
  | @unreadable segments p reason hp hb hread =>
    by_cases hfile : p.place.file.OneLine b
    · exact .inl (Diagnostic.oneLine_unreadable.2 ⟨hfile, LineBreaks.oneLine_reason hread⟩)
    · rcases List.eq_nil_or_concat' segments with rfl | ⟨above, name, rfl⟩
      · obtain rfl := hp.unique .root
        exact absurd hread (hroot _)
      · exact .inr ⟨p, reason, hp.namedAcrossLines ht hparse hb hfile, rfl⟩
  | notRust hp hb hread hr =>
    exact .inl (hparse.oneLine_parseText hr (oneLine_of_readText ht hread).1)
  | @noModuleFile segments p block position d expected hp hi hd hr =>
    obtain ⟨hfile, hdirectory⟩ := hp.oneLine_place ht hparse hi
    have hname := hp.oneLine_name hparse hi (List.mem_of_getElem? hd)
    have hpath : ∀ segment ∈ p.scope.path.segments, b.OneLine segment := by
      show ∀ segment ∈ p.place.path.segments, _
      rw [hp.path_rootOf]
      exact hp.oneLine_segments hparse
    exact .inl (Placement.oneLine_of_error hdirectory hname hfile hpath hr)
  | @circular segments p block position d place hp hi hd hb hr hl =>
    obtain ⟨hfile, -⟩ := hp.oneLine_place ht hparse hi
    have hname := hp.oneLine_name hparse hi (List.mem_of_getElem? hd)
    have hmodule : ∀ segment ∈ (p.place.path.child d.name).segments, b.OneLine segment := by
      rw [hp.path_rootOf]
      exact List.forall_mem_append.2 ⟨hp.oneLine_segments hparse, by simpa using hname⟩
    have htarget : (t.resolve place.file).OneLine b := by
      obtain ⟨above, q, habove, hq, hqb, hlocate⟩ := hl
      obtain ⟨own, hown⟩ := hp.exists_items_of_prefix hi habove hq
      rw [FileTree.resolve, ← hlocate]
      exact (Pending.oneLine_of_items ht hqb hown).2
    exact .inl (Diagnostic.oneLine_circular (ModulePath.oneLine_render hmodule) htarget hfile)

/-- A file with a line break in its name is reported as one that cannot be read. -/
theorem NamedAcrossLines.exists_reported (ht : t.OneLine b) (hparse : Source.KeepsLines b parse)
    (h : NamedAcrossLines b parse (rootOf t file) c) :
    ∃ site reason, Reported parse (rootOf t file) site (.unreadable c.place.file reason) := by
  have hbreak := h.not_oneLine ht hparse
  obtain ⟨segments, p, d, target, hp, hf, hd, -⟩ := h
  have hb : c.body = none := hf.body.trans hd
  cases hread : Source.readText t c.place.file with
  | ok text => exact absurd (oneLine_of_readText ht hread).1 hbreak
  | error fault =>
    obtain ⟨reason, rfl⟩ := Source.readText_eq_error hread
    exact ⟨_, reason, .unreadable (hp.follow hf) hb hread⟩

/-- If there is a graph, the root could be read. -/
theorem readText_root_ne_error {unit : String} {g : ModuleGraph}
    (h : (graph parse t unit file).result = .ok g) (fault : Diagnostic) :
    Source.readText t (t.resolve file) ≠ .error fault := by
  intro hread
  obtain ⟨reason, rfl⟩ := Source.readText_eq_error hread
  cases h.symm.trans (graph_of_unreadable_root unit (graph_eq_ok h).1 hread)

theorem mem_diagnostics_iff {unit : String} {g : ModuleGraph} {fault : Diagnostic}
    (h : (graph parse t unit file).result = .ok g) :
    fault ∈ g.diagnostics ↔ ∃ site, Reported parse (rootOf t file) site fault := by
  obtain ⟨found, -, hfound, hdiagnostics⟩ := exists_reports h
  simp [hdiagnostics, hfound]

/-- **Which diagnostics have a line break**: those about files with one in their names. -/
theorem not_oneLine_iff_of_mem (ht : t.OneLine b) (hparse : Source.KeepsLines b parse)
    {unit : String} {g : ModuleGraph} (h : (graph parse t unit file).result = .ok g)
    {fault : Diagnostic} (hfault : fault ∈ g.diagnostics) :
    ¬b.OneLine fault.message ↔ ∃ c reason, NamedAcrossLines b parse (rootOf t file) c ∧
      fault = .unreadable c.place.file reason := by
  obtain ⟨site, hsite⟩ := (mem_diagnostics_iff h).1 hfault
  constructor
  · intro hbreak
    exact (hsite.oneLine_or ht hparse (readText_root_ne_error h)).resolve_left hbreak
  · rintro ⟨c, reason, hc, rfl⟩ hline
    exact hc.not_oneLine ht hparse (Diagnostic.oneLine_unreadable.1 hline).1

/-- What is said of a root that cannot be read has one line exactly if its path has. -/
theorem exists_unreadable_of_graph {unit : String} {fault : Diagnostic}
    (h : (graph parse t unit file).result = .error (.diagnostic fault)) :
    ∃ reason, fault = .unreadable (t.resolve file) reason ∧
      (b.OneLine fault.message ↔ (t.resolve file).OneLine b) := by
  rcases graph_cases parse t unit file with ⟨f, hf, hg⟩ | ⟨reason, hread, hg⟩ | ⟨g, hg⟩
  · cases h.symm.trans hg
    cases hf.isFatal
  · cases h.symm.trans hg
    refine ⟨reason, rfl, ?_⟩
    rw [Diagnostic.oneLine_unreadable]
    exact and_iff_left (LineBreaks.oneLine_reason hread)
  · cases h.symm.trans hg

/-! ## The report of diagnostics -/

/-- Each diagnostic ends its line, and adds the line breaks in its message. -/
theorem countP_problems (ds : List Diagnostic) :
    (String.join (ds.map fun d => (Report.problem d).text)).toList.countP b.isBreak
      = ds.length + (ds.flatMap fun d => d.message.toList).countP b.isBreak := by
  have htext : ∀ d : Diagnostic, (Report.problem d).text.toList.countP b.isBreak
      = d.message.toList.countP b.isBreak + 1 := by
    intro d
    have hlead : "error: ".toList.countP b.isBreak = 0 := by
      have hone : b.OneLine "error: " := LineBreaks.oneLine_ofList rfl
      exact List.countP_eq_zero.2 fun c hc => by simp [hone c hc]
    have hend : "\n".toList.countP b.isBreak = 1 := by simp [b.lineFeed]
    show ("error: " ++ d.message ++ "\n").toList.countP b.isBreak = _
    rw [String.toList_append, String.toList_append, List.countP_append, List.countP_append, hlead,
      hend]
    omega
  induction ds with
  | nil => rfl
  | cons d ds ih =>
    rw [String.toList_join] at ih ⊢
    simp only [List.map_cons, List.flatMap_cons, List.countP_append, htext, ih, List.length_cons]
    omega

theorem countP_problems_eq_length_iff {ds : List Diagnostic} :
    (String.join (ds.map fun d => (Report.problem d).text)).toList.countP b.isBreak = ds.length ↔
      ∀ d ∈ ds, b.OneLine d.message := by
  rw [countP_problems, Nat.add_eq_left, List.countP_eq_zero]
  simp only [List.mem_flatMap, forall_exists_index, and_imp, LineBreaks.OneLine, Bool.not_eq_true]
  exact ⟨fun h d hd c hc => h c d hd hc, fun h c d hd hc => h d hd c hc⟩

theorem errorText_deliver {a : Arguments} (h : a.outputFile = none) (text : String)
    (ds : List Diagnostic) :
    (a.deliver t [] text ds).errorText = String.join (ds.map fun d => (Report.problem d).text) := by
  simp only [Arguments.deliver, h, Outcome.errorText, List.nil_append, List.map_map]
  rfl

/-- **Diagnostics have one line each, unless an attribute names a file across lines.**  In a tree
whose names have no line breaks, a diagnostic of a graph has one exactly if it says that such a file
cannot be read, and this is said of every such file; so the report has as many lines as there are
diagnostics exactly if there is no such file.  What is said of a root that cannot be read has one
line if its path has, and in particular if there is a file. -/
theorem diagnostics_one_line_iff (b : LineBreaks) {t : FileTree} {parse : Source.Parser}
    (ht : t.OneLine b) (hparse : Source.KeepsLines b parse) (unit : String) (file : Path) :
    (∀ g, (graph parse t unit file).result = .ok g →
      (∀ d ∈ g.diagnostics, ¬b.OneLine d.message ↔
        ∃ c reason, NamedAcrossLines b parse (rootOf t file) c ∧
          d = .unreadable c.place.file reason) ∧
      (∀ c, NamedAcrossLines b parse (rootOf t file) c →
        ∃ reason, .unreadable c.place.file reason ∈ g.diagnostics) ∧
      ∀ (a : Arguments) (text : String), a.outputFile = none →
        ((a.deliver t [] text g.diagnostics).errorText.toList.countP b.isBreak
            = g.diagnostics.length ↔
          ∀ c, ¬NamedAcrossLines b parse (rootOf t file) c)) ∧
    ∀ d, (graph parse t unit file).result = .error (.diagnostic d) →
      ∃ reason, d = .unreadable (t.resolve file) reason ∧
        (b.OneLine d.message ↔ (t.resolve file).OneLine b) ∧
        (t.isFile file = true → b.OneLine d.message) := by
  refine ⟨fun g hg => ?_, fun d hd => ?_⟩
  · have hexact : ∀ d ∈ g.diagnostics, ¬b.OneLine d.message ↔
        ∃ c reason, NamedAcrossLines b parse (rootOf t file) c ∧
          d = .unreadable c.place.file reason :=
      fun d hd => not_oneLine_iff_of_mem ht hparse hg hd
    have hevery : ∀ c, NamedAcrossLines b parse (rootOf t file) c →
        ∃ reason, .unreadable c.place.file reason ∈ g.diagnostics := by
      intro c hc
      obtain ⟨site, reason, hreported⟩ := hc.exists_reported ht hparse
      exact ⟨reason, (mem_diagnostics_iff hg).2 ⟨site, hreported⟩⟩
    refine ⟨hexact, hevery, fun a text ha => ?_⟩
    rw [errorText_deliver ha, countP_problems_eq_length_iff]
    constructor
    · intro hall c hc
      obtain ⟨reason, hreason⟩ := hevery c hc
      exact (hexact _ hreason).2 ⟨c, reason, hc, rfl⟩ (hall _ hreason)
    · intro hnone d hd
      by_contra hbreak
      obtain ⟨c, -, hc, -⟩ := (hexact d hd).1 hbreak
      exact hnone c hc
  · obtain ⟨reason, hreason, hiff⟩ := exists_unreadable_of_graph hd
    refine ⟨reason, hreason, hiff, fun hfile => hiff.2 ?_⟩
    obtain ⟨-, l, octets, hlocate, hentry⟩ := FileTree.isFile_iff.1 hfile
    rw [FileTree.resolve_of_locate hlocate]
    exact ht.location hentry

/-! ## An attribute with a line feed -/

namespace Sample

/-- A crate whose only module has a `path` attribute that is a line feed. -/
def brokenSource : String := "#[path=\"\n\"]mod a;"

/-- The syntax tree of that crate. -/
def brokenRoot : Node :=
  node "source_file" brokenSource 0 none [
    node "attribute_item" "#[path=\"\n\"]" 0 none [
      mark "#" 0,
      mark "[" 1,
      node "attribute" "path=\"\n\"" 2 none [
        node "identifier" "path" 2 none [],
        mark "=" 6,
        node "string_literal" "\"\n\"" 7 (some "value") []],
      mark "]" 10],
    node "mod_item" "mod a;" 11 none [
      mark "mod" 11,
      node "identifier" "a" 15 (some "name") [],
      mark ";" 16]]

/-- The block of that crate. -/
def brokenBlock : Block := .mk [.mk "a" (some "\n") none] []

theorem ofNode_brokenRoot : Block.ofNode brokenRoot = brokenBlock := by cbv

theorem items_brokenRoot :
    (rootOf (tree brokenSource) rootFile).items (parser brokenSource brokenRoot)
      = .ok brokenBlock := by
  rw [items_of_readText (by cbv) rfl, ofNode_brokenRoot]

/-- The file that the attribute names. -/
def brokenFile : Path := ⟨.top, ["\n"]⟩

theorem target_brokenFile : (tree brokenSource).target brokenFile = ["\n"] := by cbv

/-- The module `a` of that crate. -/
def brokenModule : Pending (tree brokenSource) where
  place := ⟨⟨["a"]⟩, brokenFile, .external, ⟨.top, []⟩⟩
  above := [["lib.rs"]]
  body := none
  fresh := fun _ => by simp [target_brokenFile]

theorem declare_brokenModule :
    (rootOf (tree brokenSource) rootFile).declare (.mk "a" (some "\n") none)
      = .ok brokenModule := by
  cbv

theorem readText_brokenFile :
    Source.readText (tree brokenSource) brokenFile
      = .error (.unreadable brokenFile "No such file or directory") := by
  have hread : (tree brokenSource).read brokenFile = .error .missing := by cbv
  rw [Source.readText, hread]
  rfl

theorem items_brokenModule :
    brokenModule.items (parser brokenSource brokenRoot)
      = .error (.unreadable brokenFile "No such file or directory") :=
  Source.readBlock_eq_error_iff.2 (.inl readText_brokenFile)

/-- The crate has two modules. -/
theorem visits_brokenRoot :
    Visits (parser brokenSource brokenRoot) [rootOf (tree brokenSource) rootFile]
      [rootOf (tree brokenSource) rootFile, brokenModule] :=
  .opened items_brokenRoot (.first declare_brokenModule (by simp) .nil)
    (.lost items_brokenModule (by decide) .done)

theorem follows_brokenModule :
    (rootOf (tree brokenSource) rootFile).Follows (parser brokenSource brokenRoot)
      (.mk "a" (some "\n") none) brokenModule :=
  ⟨brokenBlock, [], [], items_brokenRoot, rfl, declare_brokenModule, by simp⟩

theorem oneLine_brokenTree (b : LineBreaks) : (tree brokenSource).OneLine b := by
  intro l e h name hname
  obtain ⟨rfl, -⟩ := Prod.mk.inj (List.mem_singleton.1 h)
  obtain rfl := List.mem_singleton.1 hname
  exact LineBreaks.oneLine_ofList rfl

theorem keepsLines_brokenRoot (b : LineBreaks) :
    Source.KeepsLines b (parser brokenSource brokenRoot) := by
  have hroot : ∀ {text root}, parser brokenSource brokenRoot text = some root →
      root = brokenRoot := by
    intro text root h
    rw [parser] at h
    split at h
    · exact (Option.some.inj h).symm
    · cases h
  refine ⟨fun text root h _ => ?_, fun text root h hbroken => ?_⟩
  · rw [hroot h, ofNode_brokenRoot]
    refine .intro (fun d hd => ?_) fun d hd body hbody => ?_
    · obtain rfl := List.mem_singleton.1 hd
      exact LineBreaks.oneLine_ofList rfl
    · obtain rfl := List.mem_singleton.1 hd
      cases hbody
  · rw [hroot h] at hbroken
    cases hbroken

theorem not_oneLine_lineFeed (b : LineBreaks) : ¬b.OneLine "\n" := by
  intro h
  have hbreak := h '\n' (by simp)
  rw [b.lineFeed] at hbreak
  cases hbreak

theorem namedAcrossLines_brokenModule (b : LineBreaks) :
    NamedAcrossLines b (parser brokenSource brokenRoot) (rootOf (tree brokenSource) rootFile)
      brokenModule :=
  ⟨[], _, _, "\n", .root, follows_brokenModule, rfl, rfl, not_oneLine_lineFeed b⟩

end Sample

/-- The line feed in an attribute ends up in a diagnostic, though no name in the tree has a line
break. -/
theorem attribute_breaks_diagnostic :
    (Sample.tree Sample.brokenSource).OneLine .wide ∧
    Source.KeepsLines .wide (Sample.parser Sample.brokenSource Sample.brokenRoot) ∧
    ∃ g, (graph (Sample.parser Sample.brokenSource Sample.brokenRoot)
        (Sample.tree Sample.brokenSource) "demo" Sample.rootFile).result = .ok g ∧
      ∃ d ∈ g.diagnostics,
        d.message = "/\n: failed to read source: No such file or directory" := by
  obtain ⟨g, hg, -⟩ := Sample.visits_brokenRoot.exists_built "demo" (Sample.canonical_tree _)
  have hreported : Reported _ (rootOf _ Sample.rootFile) (.file ⟨["a"]⟩)
      (.unreadable Sample.brokenFile "No such file or directory") :=
    .unreadable (p := Sample.brokenModule) (Declared.root.follow Sample.follows_brokenModule) rfl
      Sample.readText_brokenFile
  refine ⟨Sample.oneLine_brokenTree _, Sample.keepsLines_brokenRoot _, g, hg,
    .unreadable Sample.brokenFile "No such file or directory",
    (mem_diagnostics_iff hg).2 ⟨_, hreported⟩, by cbv⟩

/-- So the report of that crate does not have one line for each diagnostic. -/
theorem attribute_breaks_report :
    (Sample.tree Sample.brokenSource).OneLine .wide ∧
    Source.KeepsLines .wide (Sample.parser Sample.brokenSource Sample.brokenRoot) ∧
    ∃ g, (graph (Sample.parser Sample.brokenSource Sample.brokenRoot)
        (Sample.tree Sample.brokenSource) "demo" Sample.rootFile).result = .ok g ∧
      ∀ (a : Arguments) (text : String), a.outputFile = none →
        (a.deliver (Sample.tree Sample.brokenSource) [] text g.diagnostics).errorText.toList.countP
          Text.isBreak ≠ g.diagnostics.length := by
  have ht := Sample.oneLine_brokenTree .wide
  have hparse := Sample.keepsLines_brokenRoot .wide
  obtain ⟨g, hg, -⟩ := Sample.visits_brokenRoot.exists_built "demo" (Sample.canonical_tree _)
  refine ⟨ht, hparse, g, hg, fun a text ha hcount => ?_⟩
  obtain ⟨-, -, hreport⟩ := (diagnostics_one_line_iff .wide ht hparse "demo" Sample.rootFile).1 g hg
  exact (hreport a text ha).1 hcount _ (Sample.namedAcrossLines_brokenModule _)

end Build

end CrateAtlas
