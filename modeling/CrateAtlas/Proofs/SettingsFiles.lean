import CrateAtlas.Proofs.ModulePlaces
import CrateAtlas.Proofs.Precedence
import CrateAtlas.Proofs.RootFiles

/-!
# What becomes of settings files

Settings for a directory come from at most one file, the one that is *consulted* (`Consulted`).  If
it holds a mapping of settings (`Mapping`), then that decides; everything else about the file should
be reported as a fault of the settings.  Some files are neither read nor reported (`Escapes`):

* what is not UTF-8, as far as a reader of YAML comes to notice, and in TOML in any case;
* a TOML file other than a manifest with something at `dgmod` that is no table;
* a mapping with a key that has too many digits to be written;
* a scalar at which the reader of the format itself gives up.

Nor is it reported if it cannot be found out which file to consult (`Blocked`).

**Nothing else escapes**, whatever the reader of YAML (`settings_read_or_reported`).  What escapes
from the file escapes from the search as well (`Consulted.unreported`).  If nothing does, then a
mapping has the say, or there is a complaint about the file (`settled`).
-/

set_option autoImplicit false

namespace CrateAtlas.Settings

variable {read : Yaml.Reader} {t : FileTree} {directory source : Path} {given : Option Path}
  {entries : List (Value × Value)}

/-! ## What files hold -/

/-- A file with a name for YAML. -/
def IsYaml (source : Path) : Prop :=
  String.ofList (Text.lower source.suffix.toList) = ".yaml" ∨
    String.ofList (Text.lower source.suffix.toList) = ".yml"

/-- A file with a name for TOML. -/
def IsToml (source : Path) : Prop := String.ofList (Text.lower source.suffix.toList) = ".toml"

/-- **What a reader gets of octets**: the text that they are, or the text before the first that
belongs to no character, and what is wrong there. -/
inductive Streams : List Nat → Yaml.Stream → Prop
  | text (cs : List Char) : Streams (Text.encode cs) ⟨Text.unifyBreaks cs, none⟩
  | broken {octets : List Nat} {fault : Text.Utf8Fault} {cs : List Char}
    (hfault : Text.decode octets = .error fault)
    (hbefore : octets.take fault.start = Text.encode cs) :
    Streams octets ⟨Text.unifyBreaks cs, some fault⟩

/-- The octets of a file can be read, and this comes of them as YAML. -/
def ReadsYaml (read : Yaml.Reader) (t : FileTree) (source : Path)
    (outcome : Except Yaml.StreamFault Value) : Prop :=
  ∃ octets s, t.read source = .ok octets ∧ Streams octets s ∧ read s = outcome

/-- The octets of a file are a text, and this comes of reading it as TOML. -/
def ReadsToml (t : FileTree) (source : Path) (outcome : Except Toml.Fault Manifest) : Prop :=
  ∃ cs, t.read source = .ok (Text.encode cs) ∧ Toml.parse (String.ofList cs) = outcome

/-- **The mapping of settings in a file.**  An empty YAML file and a manifest without settings hold
an empty one; other TOML files hold it at `dgmod`, or are it. -/
inductive Mapping (read : Yaml.Reader) (t : FileTree) (source : Path) :
    List (Value × Value) → Prop
  | yaml {entries : List (Value × Value)} (hyaml : IsYaml source)
    (hreads : ReadsYaml read t source (.ok (.map entries))) : Mapping read t source entries
  | empty (hyaml : IsYaml source) (hreads : ReadsYaml read t source (.ok .null)) :
    Mapping read t source []
  | manifest {document : Manifest} (htoml : IsToml source)
    (hreads : ReadsToml t source (.ok document)) (hname : source.name = manifestName) :
    Mapping read t source ((manifestTable? document).getD [])
  | table {document : Manifest} {entries : List (Value × Value)} (htoml : IsToml source)
    (hreads : ReadsToml t source (.ok document)) (hname : source.name ≠ manifestName)
    (htable : Value.lookup? document "dgmod" = some (.map entries)) : Mapping read t source entries
  | whole {document : Manifest} (htoml : IsToml source)
    (hreads : ReadsToml t source (.ok document)) (hname : source.name ≠ manifestName)
    (htable : Value.lookup? document "dgmod" = none) : Mapping read t source document

/-- **A file whose faults are not reported.** -/
inductive Escapes (read : Yaml.Reader) (t : FileTree) (source : Path) : Prop
  | yamlText {fault : Text.Utf8Fault} (hyaml : IsYaml source)
    (hreads : ReadsYaml read t source (.error (.undecodable fault)))
  | yamlScalar {fault : Yaml.ScalarFault} (hyaml : IsYaml source)
    (hreads : ReadsYaml read t source (.error (.document (.scalar fault))))
  | tomlText {octets : List Nat} (htoml : IsToml source)
    (hread : t.read source = .ok octets) (hutf8 : ¬Text.IsUtf8 octets)
  | tomlNumber {count : Nat} (htoml : IsToml source)
    (hreads : ReadsToml t source (.error (.tooManyDigits count)))
  | noTable {document : Manifest} {v : Value} (htoml : IsToml source)
    (hreads : ReadsToml t source (.ok document)) (hname : source.name ≠ manifestName)
    (htable : Value.lookup? document "dgmod" = some v) (hv : ∀ entries, v ≠ .map entries)
  | longKey {entries : List (Value × Value)} (hmapping : Mapping read t source entries)
    (hlong : MeetsLongKey entries)

/-- The computation is refused, and not with a diagnostic. -/
def Unreported {α : Type} (x : Except Failure α) : Prop :=
  ∃ f, x = .error f ∧ ∀ d, f ≠ .diagnostic d

/-- All keys stand for settings, and the last one for each has a value that the setting takes. -/
def Accepted (entries : List (Value × Value)) : Prop :=
  (∀ e ∈ entries, Known e) ∧ ∀ name v, LastFor entries name v → Takes name (wrapped name v)

/-! ## One file -/

theorem streams_streamOf (octets : List Nat) : Streams octets (streamOf octets) := by
  rw [streamOf]
  cases hdecode : Text.decode octets with
  | ok cs =>
    obtain rfl := Text.decode_eq_ok_iff.1 hdecode
    exact .text cs
  | error fault =>
    obtain ⟨cs, hbefore⟩ := Text.exists_take_eq_encode hdecode
    simp only [hbefore, Text.decode_encode]
    exact .broken hdecode hbefore

theorem Streams.eq_streamOf {octets : List Nat} {s : Yaml.Stream} (h : Streams octets s) :
    s = streamOf octets := by
  cases h with
  | text cs => simp only [streamOf, Text.decode_encode]
  | broken hfault hbefore => simp only [streamOf, hfault, hbefore, Text.decode_encode]

theorem IsYaml.not_isToml (h : IsYaml source) : ¬IsToml source := by
  intro htoml
  rw [IsYaml, htoml] at h
  revert h
  decide

theorem checked_of_isFile (h : t.isFile source = true) : source.checked = .ok source := by
  rw [Path.checked, FileTree.hasNull_of_isFile h]
  rfl

theorem ofFile_of_isYaml (h : IsYaml source) (hfile : t.isFile source = true) :
    ofFile read t source = readYaml read t source >>= ofValue source := by
  rw [IsYaml] at h
  simp only [ofFile, if_pos h, checked_of_isFile hfile]
  rfl

theorem ofFile_of_isToml (h : IsToml source) (hfile : t.isFile source = true) :
    ofFile read t source
      = readDocument t source >>= fun document =>
          ofValue source (tomlSettings source document) := by
  have hyaml : ¬IsYaml source := fun hyaml => hyaml.not_isToml h
  rw [IsYaml] at hyaml
  rw [IsToml] at h
  simp only [ofFile, if_neg hyaml, if_pos h, checked_of_isFile hfile]
  rfl

theorem ReadsYaml.readYaml_eq {outcome : Except Yaml.StreamFault Value}
    (h : ReadsYaml read t source outcome) : readYaml read t source = ofYaml source outcome := by
  obtain ⟨octets, s, hread, hs, rfl⟩ := h
  rw [readYaml, hread, hs.eq_streamOf]

theorem ReadsToml.readToml_eq {outcome : Except Toml.Fault Manifest}
    (h : ReadsToml t source outcome) : readToml t source = outcome.mapError .malformed := by
  obtain ⟨cs, hread, rfl⟩ := h
  simp only [readToml, hread, Text.decode_encode]

theorem exists_readToml_of_noText {octets : List Nat} (hread : t.read source = .ok octets)
    (hutf8 : ¬Text.IsUtf8 octets) : ∃ fault, readToml t source = .error (.undecodable fault) := by
  obtain ⟨fault, hdecode⟩ := Text.exists_decode_eq_error_iff.2 hutf8
  exact ⟨fault, by simp only [readToml, hread, hdecode]⟩

theorem ofFile_of_document {document : Manifest} (htoml : IsToml source)
    (hfile : t.isFile source = true) (h : ReadsToml t source (.ok document)) :
    ofFile read t source = ofValue source (tomlSettings source document) := by
  rw [ofFile_of_isToml htoml hfile, readDocument, h.readToml_eq]
  rfl

/-- If a file holds a mapping, then that decides. -/
theorem Mapping.ofFile_eq (h : Mapping read t source entries) (hfile : t.isFile source = true) :
    ofFile read t source = ofEntries source entries := by
  cases h with
  | yaml hyaml hreads =>
    rw [ofFile_of_isYaml hyaml hfile, hreads.readYaml_eq]
    rfl
  | empty hyaml hreads =>
    rw [ofFile_of_isYaml hyaml hfile, hreads.readYaml_eq]
    rfl
  | manifest htoml hreads hname =>
    rw [ofFile_of_document htoml hfile hreads, tomlSettings, if_pos hname, ofValue]
  | table htoml hreads hname htable =>
    rw [ofFile_of_document htoml hfile hreads, tomlSettings, if_neg hname, tableName, htable]
    rfl
  | whole htoml hreads hname htable =>
    rw [ofFile_of_document htoml hfile hreads, tomlSettings, if_neg hname, tableName, htable]
    rfl

theorem unreported_ofValue {v : Value} (h : ∀ entries, v ≠ .map entries) :
    Unreported (ofValue source v) := by
  refine ⟨.noMember v.typeName "items", ?_, by simp⟩
  cases v with
  | map entries => exact absurd rfl (h entries)
  | _ => rfl

/-- What escapes is refused, and not with a diagnostic. -/
theorem Escapes.unreported (h : Escapes read t source) (hfile : t.isFile source = true) :
    Unreported (ofFile read t source) := by
  cases h with
  | yamlText hyaml hreads =>
    rw [ofFile_of_isYaml hyaml hfile, hreads.readYaml_eq]
    exact ⟨_, rfl, by simp⟩
  | yamlScalar hyaml hreads =>
    rw [ofFile_of_isYaml hyaml hfile, hreads.readYaml_eq]
    exact ⟨_, rfl, by simp⟩
  | tomlText htoml hread hutf8 =>
    obtain ⟨fault, hdocument⟩ := exists_readToml_of_noText hread hutf8
    rw [ofFile_of_isToml htoml hfile, readDocument, hdocument]
    exact ⟨_, rfl, by simp⟩
  | tomlNumber htoml hreads =>
    rw [ofFile_of_isToml htoml hfile, readDocument, hreads.readToml_eq]
    exact ⟨_, rfl, by simp⟩
  | noTable htoml hreads hname htable hv =>
    rw [ofFile_of_document htoml hfile hreads, tomlSettings, if_neg hname, tableName, htable]
    exact unreported_ofValue hv
  | longKey hmapping hlong =>
    rw [hmapping.ofFile_eq hfile, ofEntries_of_long source hlong]
    exact ⟨_, rfl, by simp⟩

theorem yaml_cases (read : Yaml.Reader) (h : IsYaml source) (hfile : t.isFile source = true) :
    Escapes read t source ∨ (∃ entries, Mapping read t source entries) ∨
      ∃ fault, ofFile read t source = .error (failure source fault) := by
  rw [ofFile_of_isYaml h hfile]
  cases hread : t.read source with
  | error fault =>
    refine .inr (.inr ⟨.unreadable fault.message, ?_⟩)
    rw [readYaml, hread]
    rfl
  | ok octets =>
    have hreads : ReadsYaml read t source (read (streamOf octets)) :=
      ⟨octets, _, hread, streams_streamOf octets, rfl⟩
    rw [hreads.readYaml_eq]
    cases houtcome : read (streamOf octets) with
    | error fault =>
      rw [houtcome] at hreads
      cases fault with
      | undecodable fault => exact .inl (.yamlText h hreads)
      | document fault =>
        cases fault with
        | scalar fault => exact .inl (.yamlScalar h hreads)
        | invalid => exact .inr (.inr ⟨.invalidYaml, rfl⟩)
    | ok v =>
      rw [houtcome] at hreads
      cases v with
      | map entries => exact .inr (.inl ⟨entries, .yaml h hreads⟩)
      | null => exact .inr (.inl ⟨[], .empty h hreads⟩)
      | _ => exact .inr (.inr ⟨.notMapping, rfl⟩)

/-- A file whose faults in the format are reported where the file is asked for, and passed over in
the search: it cannot be read, or it is not TOML. -/
def Unusable (t : FileTree) (source : Path) : Prop :=
  (∃ fault, t.read source = .error fault) ∨ ReadsToml t source (.error .invalid)

theorem toml_cases (read : Yaml.Reader) (t : FileTree) (h : IsToml source) :
    Escapes read t source ∨ (∃ entries, Mapping read t source entries) ∨ Unusable t source := by
  cases hread : t.read source with
  | error fault => exact .inr (.inr (.inl ⟨fault, hread⟩))
  | ok octets =>
    by_cases hutf8 : Text.IsUtf8 octets
    · obtain ⟨cs, rfl⟩ := Text.isUtf8_iff.1 hutf8
      cases hparse : Toml.parse (String.ofList cs) with
      | error fault =>
        cases fault with
        | tooManyDigits count => exact .inl (.tomlNumber h ⟨cs, hread, hparse⟩)
        | invalid => exact .inr (.inr (.inr ⟨cs, hread, hparse⟩))
      | ok document =>
        have hreads : ReadsToml t source (.ok document) := ⟨cs, hread, hparse⟩
        by_cases hname : source.name = manifestName
        · exact .inr (.inl ⟨_, .manifest h hreads hname⟩)
        cases htable : Value.lookup? document "dgmod" with
        | none => exact .inr (.inl ⟨_, .whole h hreads hname htable⟩)
        | some v =>
          by_cases hmap : ∃ entries, v = .map entries
          · obtain ⟨entries, rfl⟩ := hmap
            exact .inr (.inl ⟨entries, .table h hreads hname htable⟩)
          · exact .inl (.noTable h hreads hname htable fun entries hv => hmap ⟨entries, hv⟩)
    · exact .inl (.tomlText h hread hutf8)

theorem Unusable.readToml_eq (h : Unusable t source) :
    (∃ fault, readToml t source = .error (.unreadable fault)) ∨
      readToml t source = .error (.malformed .invalid) := by
  rcases h with ⟨fault, hread⟩ | hinvalid
  · exact .inl ⟨fault, by simp only [readToml, hread]⟩
  · exact .inr hinvalid.readToml_eq

/-- A file escapes, or it holds a mapping, or its fault is reported. -/
theorem file_cases (read : Yaml.Reader) (hfile : t.isFile source = true) :
    Escapes read t source ∨ (∃ entries, Mapping read t source entries) ∨
      ∃ fault, ofFile read t source = .error (failure source fault) := by
  by_cases hyaml : IsYaml source
  · exact yaml_cases read hyaml hfile
  by_cases htoml : IsToml source
  · refine (toml_cases read t htoml).imp_right (Or.imp_right fun hunusable => ?_)
    rw [ofFile_of_isToml htoml hfile, readDocument]
    rcases hunusable.readToml_eq with ⟨fault, hfault⟩ | hinvalid
    · rw [hfault]
      exact ⟨_, rfl⟩
    · rw [hinvalid]
      exact ⟨_, rfl⟩
  · refine .inr (.inr ⟨.unsupportedType (String.ofList (Text.lower source.suffix.toList)), ?_⟩)
    rw [IsYaml] at hyaml
    rw [IsToml] at htoml
    simp only [ofFile, if_neg hyaml, if_neg htoml]
    rfl

/-! ## The file that is consulted -/

/-- No file in a directory has a name for settings. -/
def Unnamed (t : FileTree) (directory : Path) : Prop :=
  ∀ c ∈ fileNames.map directory.join, t.IsAbsent c

/-- **The file from which settings are asked for**: the given one, or the first with a name for
settings, or else the manifest. -/
inductive Consulted (t : FileTree) (directory : Path) : Option Path → Path → Prop
  | given {source : Path} (hfile : t.isFile source = true) :
    Consulted t directory (some source) source
  | named {source : Path} (hfirst : t.IsFirstFile (fileNames.map directory.join) source) :
    Consulted t directory none source
  | manifest (hunnamed : Unnamed t directory)
    (hfile : t.isFile (directory.join manifestName) = true) :
    Consulted t directory none (directory.join manifestName)

/-- **It cannot be found out which file to consult**: something is in the way of the given one, of
one with a name for settings before any other is found, or of the manifest. -/
inductive Blocked (t : FileTree) (directory : Path) : Option Path → AccessFault → Path → Prop
  | given {source : Path} {fault : AccessFault} (h : t.obstacle? source = some fault) :
    Blocked t directory (some source) fault source
  | named {source : Path} {fault : AccessFault}
    (h : t.IsFirstBlocked (fileNames.map directory.join) fault source) :
    Blocked t directory none fault source
  | manifest {fault : AccessFault} (hunnamed : Unnamed t directory)
    (h : t.obstacle? (directory.join manifestName) = some fault) :
    Blocked t directory none fault (directory.join manifestName)

/-- **What is neither read nor reported**: what a file that is consulted does not report, and which
file that is, if it cannot be found out. -/
inductive Lost (read : Yaml.Reader) (t : FileTree) (directory : Path) (given : Option Path) : Prop
  | file {source : Path} (hsource : Consulted t directory given source)
    (hescapes : Escapes read t source)
  | lookup {fault : AccessFault} {source : Path} (hblocked : Blocked t directory given fault source)

/-- **Where a mapping comes from**: the file that is consulted, or there is none and nothing is set.
A manifest that cannot be read or is not TOML counts as none, unless it is given. -/
inductive Origin (read : Yaml.Reader) (t : FileTree) (directory : Path) :
    Option Path → List (Value × Value) → Prop
  | file {given : Option Path} {source : Path} {entries : List (Value × Value)}
    (hsource : Consulted t directory given source) (hmapping : Mapping read t source entries) :
    Origin read t directory given entries
  | absent (hunnamed : Unnamed t directory) (hmanifest : t.IsAbsent (directory.join manifestName)) :
    Origin read t directory none []
  | unusable (hunnamed : Unnamed t directory)
    (hfile : t.isFile (directory.join manifestName) = true)
    (hunusable : Unusable t (directory.join manifestName)) : Origin read t directory none []

theorem Consulted.isFile (h : Consulted t directory given source) : t.isFile source = true := by
  cases h with
  | given hfile => exact hfile
  | named hfirst =>
    obtain ⟨_, _, -, -, hfile⟩ := hfirst
    exact hfile
  | manifest _ hfile => exact hfile

theorem isComponent_manifestName : IsComponent manifestName := ⟨by decide, by decide, by decide⟩

theorem name_manifest (directory : Path) : (directory.join manifestName).name = manifestName := by
  rw [Path.join_of_isComponent directory isComponent_manifestName]
  exact directory.name_along_concat [] manifestName

theorem isToml_manifest (directory : Path) : IsToml (directory.join manifestName) := by
  rw [IsToml, Path.suffix, name_manifest]
  decide

theorem result_load_of_found (h : find? t directory = .ok (some source)) :
    (load read t directory none).result = ofFile read t source := by
  rw [load, Logged.result_andThen, Logged.result_ofExcept, h]
  simp only [Logged.result_after, Logged.result_ofExcept]

theorem result_load_of_notFound (h : find? t directory = .ok none) :
    (load read t directory none).result = .ok .default := by
  rw [load, Logged.result_andThen, Logged.result_ofExcept, h]
  rfl

theorem result_load_of_error {f : Failure} (h : find? t directory = .error f) :
    (load read t directory none).result = .error f := by
  rw [load, Logged.result_andThen, Logged.result_ofExcept, h]

theorem result_load_of_named (h : t.IsFirstFile (fileNames.map directory.join) source) :
    (load read t directory none).result = ofFile read t source := by
  refine result_load_of_found ?_
  simp only [find?, FileTree.firstFile?_of_isFirstFile h]

theorem result_load_of_given (h : t.isFile source = true) :
    (load read t directory (some source)).result = ofFile read t source := by
  simp only [load, Logged.result_ofExcept, ofGiven, FileTree.probe_of_isFile h]

/-- The search comes to the manifest if no file has a name for settings. -/
theorem Unnamed.find?_eq (h : Unnamed t directory)
    (hfile : t.isFile (directory.join manifestName) = true) :
    find? t directory = findIn? t (directory.join manifestName) := by
  simp only [find?, FileTree.firstFile?_of_forall h, FileTree.probe_of_isFile hfile]

/-- Where it cannot be found out which file to consult, that is the failure. -/
theorem Blocked.result_load {fault : AccessFault} (h : Blocked t directory given fault source) :
    (load read t directory given).result = .error (.blocked fault source) := by
  cases h with
  | given h =>
    simp only [load, Logged.result_ofExcept, ofGiven,
      FileTree.probe_eq_error_iff.2 ⟨fault, h, rfl⟩]
  | named h =>
    refine result_load_of_error ?_
    simp only [find?, FileTree.firstFile?_of_isFirstBlocked h]
  | manifest hunnamed h =>
    refine result_load_of_error ?_
    simp only [find?, FileTree.firstFile?_of_forall hunnamed,
      FileTree.probe_eq_error_iff.2 ⟨fault, h, rfl⟩]

/-! When no file has a name for settings, the manifest is looked at twice: once to see whether it
has settings, and then for these. -/

section Manifest

variable (hunnamed : Unnamed t directory) (hfile : t.isFile (directory.join manifestName) = true)

include hunnamed hfile

theorem result_load_of_unusable (h : Unusable t (directory.join manifestName)) :
    (load read t directory none).result = .ok .default := by
  refine result_load_of_notFound ?_
  rw [hunnamed.find?_eq hfile, findIn?]
  rcases h.readToml_eq with ⟨fault, hfault⟩ | hinvalid
  · rw [hfault]
  · rw [hinvalid]

theorem result_load_of_document {document : Manifest}
    (h : ReadsToml t (directory.join manifestName) (.ok document)) :
    (load read t directory none).result
      = ofEntries (directory.join manifestName) ((manifestTable? document).getD []) := by
  have hmapping : Mapping read t _ _ :=
    .manifest (isToml_manifest directory) h (name_manifest directory)
  have hfound : find? t directory = .ok
      (if (manifestTable? document).isSome then some (directory.join manifestName) else none) := by
    rw [hunnamed.find?_eq hfile, findIn?, h.readToml_eq]
    rfl
  cases htable : manifestTable? document with
  | none =>
    rw [htable] at hfound
    exact result_load_of_notFound hfound
  | some entries =>
    rw [htable] at hfound hmapping
    rw [result_load_of_found hfound]
    exact hmapping.ofFile_eq hfile

end Manifest

/-- What a manifest holds. -/
theorem exists_document_of_mapping (h : Mapping read t (directory.join manifestName) entries) :
    ∃ document, ReadsToml t (directory.join manifestName) (.ok document) ∧
      entries = (manifestTable? document).getD [] := by
  have hname := name_manifest directory
  have htoml := isToml_manifest directory
  cases h with
  | yaml hyaml => exact absurd htoml hyaml.not_isToml
  | empty hyaml => exact absurd htoml hyaml.not_isToml
  | manifest _ hreads => exact ⟨_, hreads, rfl⟩
  | table _ _ hother => exact absurd hname hother
  | whole _ _ hother => exact absurd hname hother

/-- A mapping has the say, wherever it comes from. -/
theorem Origin.exists_result_load (h : Origin read t directory given entries) :
    ∃ source, (entries = [] ∨ Consulted t directory given source) ∧
      (load read t directory given).result = ofEntries source entries := by
  cases h with
  | file hsource hmapping =>
    refine ⟨_, .inr hsource, ?_⟩
    rw [← hmapping.ofFile_eq hsource.isFile]
    cases hsource with
    | given hfile => exact result_load_of_given hfile
    | named hfirst => exact result_load_of_named hfirst
    | manifest hunnamed hfile =>
      obtain ⟨document, hreads, rfl⟩ := exists_document_of_mapping hmapping
      rw [result_load_of_document hunnamed hfile hreads, hmapping.ofFile_eq hfile]
  | absent hunnamed hmanifest =>
    have hfind : find? t directory = .ok none := by
      simp only [find?, FileTree.firstFile?_of_forall hunnamed,
        FileTree.probe_of_isAbsent hmanifest]
    exact ⟨directory, .inl rfl, result_load_of_notFound hfind⟩
  | unusable hunnamed hfile hunusable =>
    exact ⟨directory, .inl rfl, result_load_of_unusable hunnamed hfile hunusable⟩

/-- What escapes from the file that is consulted is not reported. -/
theorem Consulted.unreported (h : Consulted t directory given source)
    (hescapes : Escapes read t source) : Unreported (load read t directory given).result := by
  have hofFile := hescapes.unreported h.isFile
  cases h with
  | given hfile => rwa [result_load_of_given hfile]
  | named hfirst => rwa [result_load_of_named hfirst]
  | manifest hunnamed hfile =>
    have hfind := hunnamed.find?_eq hfile
    cases hescapes with
    | yamlText hyaml => exact absurd (isToml_manifest directory) hyaml.not_isToml
    | yamlScalar hyaml => exact absurd (isToml_manifest directory) hyaml.not_isToml
    | tomlText _ hread hutf8 =>
      obtain ⟨fault, hfault⟩ := exists_readToml_of_noText hread hutf8
      rw [findIn?, hfault] at hfind
      exact ⟨_, result_load_of_error hfind, by simp⟩
    | tomlNumber _ hreads =>
      rw [findIn?, hreads.readToml_eq] at hfind
      exact ⟨_, result_load_of_error hfind, by simp⟩
    | noTable _ _ hname => exact absurd (name_manifest directory) hname
    | longKey hmapping hlong =>
      obtain ⟨document, hreads, rfl⟩ := exists_document_of_mapping hmapping
      rwa [result_load_of_document hunnamed hfile hreads, ← hmapping.ofFile_eq hfile]

theorem Lost.unreported (h : Lost read t directory given) :
    Unreported (load read t directory given).result := by
  cases h with
  | file hsource hescapes => exact hsource.unreported hescapes
  | lookup hblocked => exact ⟨_, hblocked.result_load, by simp⟩

/-- The file that a complaint is about: the given one, which is none, or the one consulted. -/
inductive Complaint (t : FileTree) (directory : Path) : Option Path → Path → SettingsFault → Prop
  | missing {source : Path} (habsent : t.IsAbsent source) :
    Complaint t directory (some source) source .noFile
  | about {given : Option Path} {source : Path} {fault : SettingsFault}
    (hsource : Consulted t directory given source) : Complaint t directory given source fault

/-- Something is lost, or a mapping has the say, or there is a complaint. -/
def Settled (read : Yaml.Reader) (t : FileTree) (directory : Path) (given : Option Path) : Prop :=
  Lost read t directory given ∨ (∃ entries, Origin read t directory given entries) ∨
    ∃ source fault, (load read t directory given).result = .error (failure source fault) ∧
      Complaint t directory given source fault

theorem Consulted.settled_of_ofFile (h : Consulted t directory given source)
    (hresult : (load read t directory given).result = ofFile read t source) :
    Settled read t directory given := by
  rcases file_cases read h.isFile with hescapes | ⟨entries, hmapping⟩ | ⟨fault, hfault⟩
  · exact .inl (.file h hescapes)
  · exact .inr (.inl ⟨entries, .file h hmapping⟩)
  · exact .inr (.inr ⟨source, fault, hresult.trans hfault, .about h⟩)

theorem Consulted.settled (read : Yaml.Reader) (h : Consulted t directory given source) :
    Settled read t directory given := by
  cases h with
  | given hfile => exact (Consulted.given hfile).settled_of_ofFile (result_load_of_given hfile)
  | named hfirst => exact (Consulted.named hfirst).settled_of_ofFile (result_load_of_named hfirst)
  | manifest hunnamed hfile =>
    rcases toml_cases read t (isToml_manifest directory) with
      hescapes | ⟨entries, hmapping⟩ | hunusable
    · exact .inl (.file (.manifest hunnamed hfile) hescapes)
    · exact .inr (.inl ⟨entries, .file (.manifest hunnamed hfile) hmapping⟩)
    · exact .inr (.inl ⟨[], .unusable hunnamed hfile hunusable⟩)

/-- A path leads to a file, or to none, or that cannot be found out. -/
theorem path_cases (t : FileTree) (p : Path) :
    t.isFile p = true ∨ t.IsAbsent p ∨ ∃ fault, t.obstacle? p = some fault := by
  cases hfile : t.isFile p with
  | true => exact .inl rfl
  | false =>
    cases hobstacle : t.obstacle? p with
    | none => exact .inr (.inl ⟨hobstacle, hfile⟩)
    | some fault => exact .inr (.inr ⟨fault, rfl⟩)

theorem settled (read : Yaml.Reader) (t : FileTree) (directory : Path) (given : Option Path) :
    Settled read t directory given := by
  cases given with
  | some source =>
    rcases path_cases t source with hfile | habsent | ⟨fault, hobstacle⟩
    · exact (Consulted.given hfile).settled read
    · refine .inr (.inr ⟨source, .noFile, ?_, .missing habsent⟩)
      simp only [load, Logged.result_ofExcept, ofGiven, FileTree.probe_of_isAbsent habsent]
    · exact .inl (.lookup (.given hobstacle))
  | none =>
    rcases t.firstFile?_cases (fileNames.map directory.join) with
      ⟨source, hfirst⟩ | hunnamed | ⟨fault, source, hblocked⟩
    · exact (Consulted.named hfirst).settled read
    · rcases path_cases t (directory.join manifestName) with hfile | habsent | ⟨fault, hobstacle⟩
      · exact (Consulted.manifest hunnamed hfile).settled read
      · exact .inr (.inl ⟨[], .absent hunnamed habsent⟩)
      · exact .inl (.lookup (.manifest hunnamed hobstacle))
    · exact .inl (.lookup (.named hblocked))

theorem Origin.lost_of_long (h : Origin read t directory given entries)
    (hlong : MeetsLongKey entries) : Lost read t directory given := by
  have hne : entries ≠ [] := by
    obtain ⟨before, entry, after, rfl, -⟩ := hlong
    simp
  cases h with
  | file hsource hmapping => exact .file hsource (.longKey hmapping hlong)
  | absent => exact absurd rfl hne
  | unusable => exact absurd rfl hne

theorem not_accepted_of_error {f : Failure} (h : (load read t directory given).result = .error f)
    (horigin : Origin read t directory given entries) : ¬Accepted entries := by
  intro haccepted
  obtain ⟨source, -, hresult⟩ := horigin.exists_result_load
  obtain ⟨s, hs⟩ := (exists_ofEntries_iff source entries).2 haccepted
  cases h.symm.trans (hresult.trans hs)

/-- **Settings are read or reported, unless something is lost.**  This is so for every reader of
YAML.  If it can be found out which file to consult, and it is none of those whose faults escape,
then there are settings, which follow an accepted mapping, or a fault of the settings is reported,
and then no accepted mapping has been passed over.  Otherwise the failure is no diagnostic. -/
theorem settings_read_or_reported (read : Yaml.Reader) (t : FileTree) (directory : Path)
    (given : Option Path) :
    Lost read t directory given ∧ Unreported (load read t directory given).result ∨
    ¬Lost read t directory given ∧
      ((∃ entries s, Origin read t directory given entries ∧ Accepted entries ∧
          (load read t directory given).result = .ok s ∧ Follows entries s) ∨
        ∃ source fault, (load read t directory given).result = .error (failure source fault) ∧
          Complaint t directory given source fault ∧
          ∀ entries, Origin read t directory given entries → ¬Accepted entries) := by
  by_cases hlost : Lost read t directory given
  · exact .inl ⟨hlost, hlost.unreported⟩
  refine .inr ⟨hlost, ?_⟩
  rcases settled read t directory given with
    h | ⟨entries, horigin⟩ | ⟨source, fault, hfault, habout⟩
  · exact absurd h hlost
  · obtain ⟨source, hsource, hresult⟩ := horigin.exists_result_load
    have hshort : ¬MeetsLongKey entries := fun hlong => hlost (horigin.lost_of_long hlong)
    rcases ofEntries_cases source hshort with ⟨s, hs⟩ | ⟨fault, hfault⟩
    · exact .inl ⟨entries, s, horigin, (exists_ofEntries_iff source entries).1 ⟨s, hs⟩,
        hresult.trans hs, follows_of_ofEntries hs⟩
    · have hsource : Consulted t directory given source := by
        refine hsource.resolve_left ?_
        rintro rfl
        cases hfault
      have herror := hresult.trans hfault
      exact .inr ⟨source, fault, herror, .about hsource, fun _ => not_accepted_of_error herror⟩
  · exact .inr ⟨source, fault, hfault, habout, fun _ => not_accepted_of_error hfault⟩

/-! ## Two files that escape -/

namespace Sample

/-- A settings file that is no text, and one whose settings are a number. -/
def strayTree : FileTree where
  entries :=
    [(["dgmod.yaml"], .file [0xFF]), (["c.toml"], .file ("dgmod=5".toList.map Char.toNat))]
  here := []

/-- The directory of both. -/
def strayDirectory : Path := ⟨.top, []⟩

def strayFile : Path := ⟨.top, ["dgmod.yaml"]⟩

def numberFile : Path := ⟨.top, ["c.toml"]⟩

theorem read_strayFile : strayTree.read strayFile = .ok [0xFF] := by cbv

theorem read_numberFile :
    strayTree.read numberFile = .ok (Text.encode "dgmod=5".toList) := by cbv

theorem isFile_strayFile : strayTree.isFile strayFile = true :=
  FileTree.isFile_of_read (by decide) read_strayFile

theorem isFile_numberFile : strayTree.isFile numberFile = true :=
  FileTree.isFile_of_read (by decide) read_numberFile

theorem ofFile_strayFile :
    ofFile Yaml.read strayTree strayFile = .error (.undecodable ⟨.startOctet, 0xFF, 0, 1⟩) := by
  have hyaml : IsYaml strayFile := .inl (by decide)
  have hdecode : Text.decode [0xFF] = .error ⟨.startOctet, 0xFF, 0, 1⟩ := by cbv
  have hreads : ReadsYaml Yaml.read strayTree strayFile
      (.error (.undecodable ⟨.startOctet, 0xFF, 0, 1⟩)) :=
    ⟨_, _, read_strayFile, .broken hdecode (show [0xFF].take 0 = Text.encode [] from rfl), rfl⟩
  rw [ofFile_of_isYaml hyaml isFile_strayFile, hreads.readYaml_eq]
  rfl

theorem ofFile_numberFile :
    ofFile Yaml.read strayTree numberFile = .error (.noMember "int" "items") := by
  have htoml : IsToml numberFile := by
    rw [IsToml]
    decide
  have hparse : Toml.parse (String.ofList "dgmod=5".toList)
      = .ok [(.text "dgmod", .int 5)] := by cbv
  rw [ofFile_of_document htoml isFile_numberFile ⟨_, read_numberFile, hparse⟩]
  rfl

/-- A settings file that is no text ends the run without a report, and so does one whose table of
settings is a number. -/
theorem stray_files_not_reported :
    (load Yaml.read strayTree strayDirectory none).result
      = .error (.undecodable ⟨.startOctet, 0xFF, 0, 1⟩) ∧
    (load Yaml.read strayTree strayDirectory (some numberFile)).result
      = .error (.noMember "int" "items") := by
  have hnames : fileNames.map strayDirectory.join = strayFile ::
      [⟨.top, ["dgmod.yml"]⟩, ⟨.top, [".dgmod.yaml"]⟩, ⟨.top, [".dgmod.yml"]⟩] := by cbv
  have hfirst : strayTree.IsFirstFile (fileNames.map strayDirectory.join) strayFile :=
    ⟨[], _, hnames, by simp, isFile_strayFile⟩
  rw [result_load_of_named hfirst, result_load_of_given isFile_numberFile]
  exact ⟨ofFile_strayFile, ofFile_numberFile⟩

end Sample

end CrateAtlas.Settings
