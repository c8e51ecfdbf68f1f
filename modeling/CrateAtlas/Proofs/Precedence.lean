import Mathlib.Data.List.Basic
import CrateAtlas.Settings

/-!
# Which settings hold

Settings are read from a mapping and then overridden, each of them by its name.  So that one
statement can speak about all of them, `Settings.value` gives a setting as a value, by its name.
Each of the six is a value that its setting takes, and any six of such values are those of some
settings (`takes_value`, `exists_of_takes`).

The reading of values is described once, by `apply_eq_ok_iff`: **a setting is the value that is
given for it or else what it was before.**  What remains is to say which value is given for it.

* In a mapping it is the one of *the last key* that stands for the setting (`LastFor`), with a
  single pattern counting as a list of one.
* Among overrides it is the one that is not null (`override?`).  Hence overriding twice is
  overriding once, with the later overrides first (`merge_merge`).

Everything that is wrong with a mapping is reported as such, but for one thing: a key that is a
whole number with too many digits has no written form (`MeetsLongKey`).
-/

set_option autoImplicit false

namespace CrateAtlas

theorem Format.mem_all (f : Format) : f ∈ Format.all := by cases f <;> decide

theorem Format.label_inj {f f' : Format} (h : f.label = f'.label) : f = f' := by
  revert h
  cases f <;> cases f' <;> decide

theorem Orientation.mem_all (o : Orientation) : o ∈ Orientation.all := by cases o <;> decide

theorem Orientation.label_inj {o o' : Orientation} (h : o.label = o'.label) : o = o' := by
  revert h
  cases o <;> cases o' <;> decide

theorem OutlineStyle.mem_all (s : OutlineStyle) : s ∈ OutlineStyle.all := by cases s <;> decide

theorem OutlineStyle.label_inj {s s' : OutlineStyle} (h : s.label = s'.label) : s = s' := by
  revert h
  cases s <;> cases s' <;> decide

namespace Settings

variable {s s' : Settings} {given : Given} {name : String} {v : Value}

/-! ## Settings by name -/

/-- The value of the setting with the given name. -/
def value (s : Settings) : String → Value
  | "format" => .text s.format.label
  | "orientation" => .text s.orientation.label
  | "dashed_imports" => .bool s.dashedImports
  | "exclude_tests" => .bool s.excludeTests
  | "exclude" => .list (s.exclude.map .text)
  | "ascii_style" => .text s.style.label
  | _ => .null

/-- **The values that a setting takes**: one of its choices, a truth value, or a list of texts. -/
def Takes : String → Value → Prop
  | "format", v => ∃ choice ∈ ["mermaid", "json", "ascii"], v = .text choice
  | "orientation", v => ∃ choice ∈ ["TD", "TB", "LR", "RL", "BT"], v = .text choice
  | "dashed_imports", v => ∃ flag, v = .bool flag
  | "exclude_tests", v => ∃ flag, v = .bool flag
  | "exclude", v => ∃ patterns : List String, v = .list (patterns.map .text)
  | "ascii_style", v => ∃ choice ∈ ["tree", "ascii"], v = .text choice
  | _, _ => False

theorem forall_names {P : String → Prop} :
    (∀ name ∈ names, P name) ↔ P "format" ∧ P "orientation" ∧ P "dashed_imports" ∧
      P "exclude_tests" ∧ P "exclude" ∧ P "ascii_style" := by
  simp [names]

/-- Settings are made of values that they take. -/
theorem takes_value (s : Settings) : ∀ name ∈ names, Takes name (s.value name) :=
  forall_names.2 ⟨⟨_, List.mem_map_of_mem s.format.mem_all, rfl⟩,
    ⟨_, List.mem_map_of_mem s.orientation.mem_all, rfl⟩, ⟨_, rfl⟩, ⟨_, rfl⟩, ⟨_, rfl⟩,
    ⟨_, List.mem_map_of_mem s.style.mem_all, rfl⟩⟩

/-- Values that their settings take are those of some settings. -/
theorem exists_of_takes {f : String → Value} (h : ∀ name ∈ names, Takes name (f name)) :
    ∃ s : Settings, ∀ name ∈ names, s.value name = f name := by
  obtain ⟨⟨_, hf, hformat⟩, ⟨_, ho, horientation⟩, ⟨dashed, hdashed⟩, ⟨tests, htests⟩,
    ⟨patterns, hexclude⟩, ⟨_, hs, hstyle⟩⟩ := forall_names.1 h
  obtain ⟨format, -, rfl⟩ : ∃ a ∈ Format.all, a.label = _ := List.mem_map.1 hf
  obtain ⟨orientation, -, rfl⟩ : ∃ a ∈ Orientation.all, a.label = _ := List.mem_map.1 ho
  obtain ⟨style, -, rfl⟩ : ∃ a ∈ OutlineStyle.all, a.label = _ := List.mem_map.1 hs
  exact ⟨⟨format, orientation, dashed, tests, patterns, style⟩, forall_names.2
    ⟨hformat.symm, horientation.symm, hdashed.symm, htests.symm, hexclude.symm, hstyle.symm⟩⟩

/-- Where values are given that the settings take, there are settings with these values and the
former ones for the rest. -/
theorem exists_of_given {f : String → Option Value} (s : Settings)
    (h : ∀ name ∈ names, ∀ v, f name = some v → Takes name v) :
    ∃ s' : Settings, ∀ name ∈ names, s'.value name = (f name).getD (s.value name) := by
  refine exists_of_takes fun name hname => ?_
  cases hv : f name with
  | none => exact s.takes_value name hname
  | some v => exact h name hname v hv

/-! ## Reading values -/

theorem mapM_text?_eq_some_iff {items : List Value} {patterns : List String} :
    items.mapM Value.text? = some patterns ↔ items = patterns.map .text := by
  induction items generalizing patterns with
  | nil => cases patterns <;> simp
  | cons item rest ih =>
    simp only [List.mapM_cons, Option.bind_eq_bind, Option.pure_def, Option.bind_eq_some_iff,
      Value.text?_eq_some_iff, ih, Option.some.injEq]
    constructor
    · rintro ⟨p, rfl, ps, rfl, rfl⟩
      rfl
    · intro h
      obtain ⟨p, ps, rfl, rfl, rfl⟩ := List.map_eq_cons_iff.1 h.symm
      exact ⟨p, rfl, ps, rfl, rfl⟩

section Read

variable {setting : String}

theorem readChoice_eq_ok_iff {α : Type} {label : α → String} {choices : List α} {former a : α}
    (hmem : ∀ a, a ∈ choices) (hinj : ∀ {a b}, label a = label b → a = b) :
    readChoice given setting label choices former = .ok a ↔
      .text (label a) = (given.lookup setting).getD (.text (label former)) := by
  rw [readChoice]
  cases given.lookup setting with
  | none =>
    rw [Option.getD_none, Value.text.injEq, Except.ok.injEq]
    exact ⟨fun h => h ▸ rfl, fun h => (hinj h).symm⟩
  | some v =>
    simp only [Option.getD_some]
    split
    · rename_i b hfound
      have htext : v.text? = some (label b) := by simpa using List.find?_some hfound
      rw [Value.text?_eq_some_iff.1 htext, Value.text.injEq, Except.ok.injEq]
      exact ⟨fun h => h ▸ rfl, fun h => (hinj h).symm⟩
    · rename_i hnone
      have hnot : ¬v.text? = some (label a) := by
        simpa using List.find?_eq_none.1 hnone a (hmem a)
      rw [Value.text?_eq_some_iff, eq_comm] at hnot
      simp [hnot]

theorem readFlag_eq_ok_iff {former flag : Bool} :
    readFlag given setting former = .ok flag ↔
      .bool flag = (given.lookup setting).getD (.bool former) := by
  rw [readFlag]
  cases given.lookup setting with
  | none => simp [eq_comm]
  | some v => cases v <;> simp [eq_comm]

theorem readPatterns_eq_ok_iff {former patterns : List String} :
    readPatterns given setting former = .ok patterns ↔
      .list (patterns.map .text) = (given.lookup setting).getD (.list (former.map .text)) := by
  have hinj : Function.Injective (Value.text : String → Value) := fun _ _ h => Value.text.inj h
  rw [readPatterns]
  cases given.lookup setting with
  | none => simp [(List.map_injective_iff.2 hinj).eq_iff, eq_comm]
  | some v =>
    cases v with
    | list items =>
      simp only [Option.getD_some, Value.list.injEq, eq_comm (b := items),
        ← mapM_text?_eq_some_iff]
      cases items.mapM Value.text? <;> simp
    | _ => simp

end Read

theorem bind_eq_ok_iff {ε α β : Type} {x : Except ε α} {f : α → Except ε β} {b : β} :
    x >>= f = .ok b ↔ ∃ a, x = .ok a ∧ f a = .ok b := by
  cases x with
  | error e => simp [bind, Except.bind]
  | ok a => simp [bind, Except.bind]

theorem mapError_eq_ok_iff {ε ε' α : Type} {x : Except ε α} {f : ε → ε'} {a : α} :
    x.mapError f = .ok a ↔ x = .ok a := by
  constructor
  · intro h
    cases x with
    | ok b =>
      cases h
      rfl
    | error e => cases h
  · rintro rfl
    rfl

/-- **A setting is the value that is given for it or else what it was before.** -/
theorem apply_eq_ok_iff : s.apply given = .ok s' ↔
    ∀ name ∈ names, s'.value name = (given.lookup name).getD (s.value name) := by
  rw [forall_names]
  simp only [apply, bind_eq_ok_iff, readFlag_eq_ok_iff, readPatterns_eq_ok_iff,
    readChoice_eq_ok_iff Format.mem_all Format.label_inj,
    readChoice_eq_ok_iff Orientation.mem_all Orientation.label_inj,
    readChoice_eq_ok_iff OutlineStyle.mem_all OutlineStyle.label_inj]
  constructor
  · rintro ⟨format, hformat, orientation, horientation, style, hstyle, dashed, hdashed, tests,
      htests, patterns, hexclude, hs⟩
    obtain rfl := Except.ok.inj hs
    exact ⟨hformat, horientation, hdashed, htests, hexclude, hstyle⟩
  · rintro ⟨hformat, horientation, hdashed, htests, hexclude, hstyle⟩
    exact ⟨_, hformat, _, horientation, _, hstyle, _, hdashed, _, htests, _, hexclude, rfl⟩

/-! ## Mappings -/

/-- A key stands for the setting with this name: it can be written, and its written form is the
name, with dashes for underscores. -/
def Named (key : Value) (name : String) : Prop := key.isLong = false ∧ settingName key = name

/-- The key of an entry stands for a setting. -/
def Known (entry : Value × Value) : Prop := ∃ name ∈ names, Named entry.1 name

/-- A key cannot be written, and it is met because all keys before it stand for settings. -/
def MeetsLongKey (entries : List (Value × Value)) : Prop :=
  ∃ before entry after, entries = before ++ entry :: after ∧ (∀ e ∈ before, Known e) ∧
    entry.1.isLong = true

/-- The value of the last key that stands for a setting. -/
def LastFor (entries : List (Value × Value)) (name : String) (v : Value) : Prop :=
  ∃ before key after, entries = before ++ (key, v) :: after ∧ Named key name ∧
    ∀ e ∈ after, ¬Named e.1 name

/-- The value of a setting in a mapping, where a single pattern counts as a list of one. -/
def wrapped (name : String) (v : Value) : Value :=
  match v with
  | .text pattern => if name = "exclude" then .list [.text pattern] else v
  | _ => v

/-- The names and values in a mapping, the last ones first. -/
def namedValues (entries : List (Value × Value)) : Given :=
  (entries.map fun e => (settingName e.1, e.2)).reverse

theorem known_iff {entry : Value × Value} :
    Known entry ↔ entry.1.isLong = false ∧ settingName entry.1 ∈ names := by
  constructor
  · rintro ⟨name, hname, hlong, rfl⟩
    exact ⟨hlong, hname⟩
  · rintro ⟨hlong, hname⟩
    exact ⟨_, hname, hlong, rfl⟩

theorem collect_of_known (source : Path) {entries : List (Value × Value)}
    (h : ∀ e ∈ entries, Known e) (given : Given) :
    collect source entries given = .ok (namedValues entries ++ given) := by
  induction entries generalizing given with
  | nil => rfl
  | cons entry rest ih =>
    obtain ⟨hentry, hrest⟩ := List.forall_mem_cons.1 h
    obtain ⟨hlong, hname⟩ := known_iff.1 hentry
    rw [collect, if_neg (by simp [hlong]), if_pos (by simpa using hname), ih hrest]
    simp [namedValues]

/-- The first key that stands for no setting is what is wrong with a mapping. -/
theorem collect_of_stray (source : Path) {before after : List (Value × Value)}
    {entry : Value × Value} (hbefore : ∀ e ∈ before, Known e) (hentry : ¬Known entry)
    (given : Given) :
    collect source (before ++ entry :: after) given = .error
      (if entry.1.isLong then .scalar .unwritable
        else failure source (.unknownKey entry.1.bare)) := by
  induction before generalizing given with
  | nil =>
    rw [List.nil_append, collect]
    split_ifs with hlong hname
    · rfl
    · exact absurd (known_iff.2 ⟨by simpa using hlong, by simpa using hname⟩) hentry
    · rfl
  | cons first rest ih =>
    obtain ⟨hfirst, hrest⟩ := List.forall_mem_cons.1 hbefore
    obtain ⟨hlong, hname⟩ := known_iff.1 hfirst
    rw [List.cons_append, collect, if_neg (by simp [hlong]), if_pos (by simpa using hname),
      ih hrest]

theorem known_or_exists_stray (entries : List (Value × Value)) :
    (∀ e ∈ entries, Known e) ∨ ∃ before entry after, entries = before ++ entry :: after ∧
      (∀ e ∈ before, Known e) ∧ ¬Known entry := by
  classical
  cases h : entries.find? fun e => ¬Known e with
  | none => exact .inl (by simpa using h)
  | some entry =>
    obtain ⟨hstray, before, after, hentries, hbefore⟩ := List.find?_eq_some_iff_append.1 h
    exact .inr ⟨before, entry, after, hentries, by simpa using hbefore, by simpa using hstray⟩

/-- What is found first in the values of a mapping is what stands last in it. -/
theorem lookup_namedValues {entries : List (Value × Value)} (h : ∀ e ∈ entries, Known e) :
    (namedValues entries).lookup name = some v ↔ LastFor entries name v := by
  have hnamed : ∀ e ∈ entries, Named e.1 name ↔ settingName e.1 = name := fun e he =>
    and_iff_right (known_iff.1 (h e he)).1
  rw [namedValues, List.lookup_eq_some_iff]
  constructor
  · rintro ⟨later, earlier, hsplit, hlater⟩
    rw [List.reverse_eq_append_iff, List.reverse_cons, List.append_assoc,
      List.singleton_append] at hsplit
    obtain ⟨before, rest, rfl, hbefore, hrest⟩ := List.map_eq_append_iff.1 hsplit
    obtain ⟨⟨key, v⟩, after, rfl, hentry, hafter⟩ := List.map_eq_cons_iff.1 hrest
    obtain ⟨rfl, rfl⟩ := Prod.mk.inj hentry
    refine ⟨before, key, after, rfl, (hnamed _ (by simp)).2 rfl, fun e he hn => ?_⟩
    have hmem : (settingName e.1, e.2) ∈ later := by
      rw [← List.mem_reverse, ← hafter]
      exact List.mem_map_of_mem he
    have hne := hlater _ hmem
    rw [(hnamed e (by simp [he])).1 hn] at hne
    simp at hne
  · rintro ⟨before, key, after, rfl, hkey, hafter⟩
    refine ⟨(after.map fun e => (settingName e.1, e.2)).reverse,
      (before.map fun e => (settingName e.1, e.2)).reverse, ?_, ?_⟩
    · simp [hkey.2]
    · intro p hp
      obtain ⟨e, he, rfl⟩ := List.mem_map.1 (List.mem_reverse.1 hp)
      have hne : name ≠ settingName e.1 := fun heq =>
        hafter e he ((hnamed e (by simp [he])).2 heq.symm)
      simpa using hne

theorem lookup_wrapPattern (given : Given) (name : String) :
    (wrapPattern given).lookup name = (given.lookup name).map (wrapped name) := by
  have hother : ∀ name, name ≠ "exclude" → (given.lookup name).map (wrapped name)
      = given.lookup name := by
    intro name hname
    cases given.lookup name with
    | none => rfl
    | some v => cases v <;> simp [wrapped, hname]
  rw [wrapPattern]
  split
  · rename_i pattern hpattern
    rw [List.lookup_cons]
    by_cases hname : name = "exclude"
    · simp [hname, hpattern, wrapped]
    · rw [hother name hname, beq_false_of_ne hname]
  · rename_i hpattern
    by_cases hname : name = "exclude"
    · subst hname
      cases hv : given.lookup "exclude" with
      | none => rfl
      | some v => cases v <;> simp_all [wrapped]
    · rw [hother name hname]

theorem ofEntries_of_known (source : Path) {entries : List (Value × Value)}
    (h : ∀ e ∈ entries, Known e) :
    ofEntries source entries
      = (Settings.default.apply (wrapPattern (namedValues entries))).mapError (failure source) := by
  rw [ofEntries, collect_of_known source h, List.append_nil]
  rfl

/-- **What a mapping says.**  If all keys stand for settings, each setting is the value of the last
key for it, or the default. -/
theorem ofEntries_eq_ok_iff (source : Path) {entries : List (Value × Value)}
    (h : ∀ e ∈ entries, Known e) :
    ofEntries source entries = .ok s ↔
      ∀ name ∈ names, s.value name
        = (((namedValues entries).lookup name).map (wrapped name)).getD
            (Settings.default.value name) := by
  rw [ofEntries_of_known source h, mapError_eq_ok_iff, apply_eq_ok_iff]
  simp only [lookup_wrapPattern]

theorem LastFor.mem_names {entries : List (Value × Value)} (h : ∀ e ∈ entries, Known e)
    (hv : LastFor entries name v) : name ∈ names := by
  obtain ⟨before, key, after, rfl, ⟨-, rfl⟩, -⟩ := hv
  exact (known_iff.1 (h (key, v) (by simp))).2

theorem ofEntries_of_stray (source : Path) {before after : List (Value × Value)}
    {entry : Value × Value} (hbefore : ∀ e ∈ before, Known e) (hentry : ¬Known entry) :
    ofEntries source (before ++ entry :: after) = .error
      (if entry.1.isLong then .scalar .unwritable
        else failure source (.unknownKey entry.1.bare)) := by
  rw [ofEntries, collect_of_stray source hbefore hentry]
  rfl

theorem ofEntries_of_long (source : Path) {entries : List (Value × Value)}
    (h : MeetsLongKey entries) : ofEntries source entries = .error (.scalar .unwritable) := by
  obtain ⟨before, entry, after, rfl, hbefore, hlong⟩ := h
  have hentry : ¬Known entry := fun hknown => by simp [(known_iff.1 hknown).1] at hlong
  rw [ofEntries_of_stray source hbefore hentry, if_pos hlong]

/-- A mapping without a key that cannot be written gives settings, or it is reported. -/
theorem ofEntries_cases (source : Path) {entries : List (Value × Value)}
    (h : ¬MeetsLongKey entries) :
    (∃ s, ofEntries source entries = .ok s) ∨
      ∃ fault, ofEntries source entries = .error (failure source fault) := by
  rcases known_or_exists_stray entries with hknown | ⟨before, entry, after, rfl, hbefore, hentry⟩
  · rw [ofEntries_of_known source hknown]
    cases Settings.default.apply (wrapPattern (namedValues entries)) with
    | ok s => exact .inl ⟨s, rfl⟩
    | error fault => exact .inr ⟨fault, rfl⟩
  · have hshort : ¬entry.1.isLong = true := fun hlong =>
      h ⟨before, entry, after, rfl, hbefore, hlong⟩
    rw [ofEntries_of_stray source hbefore hentry, if_neg hshort]
    exact .inr ⟨_, rfl⟩

theorem known_of_ofEntries {source : Path} {entries : List (Value × Value)}
    (h : ofEntries source entries = .ok s) : ∀ e ∈ entries, Known e := by
  rcases known_or_exists_stray entries with hknown | ⟨before, entry, after, rfl, hbefore, hentry⟩
  · exact hknown
  · cases h.symm.trans (ofEntries_of_stray source hbefore hentry)

/-- **Settings follow a mapping**: each is the value of the last key for it, or the default. -/
structure Follows (entries : List (Value × Value)) (s : Settings) : Prop where
  takes : ∀ name ∈ names, Takes name (s.value name)
  last : ∀ name v, LastFor entries name v → s.value name = wrapped name v
  default : ∀ name ∈ names, (¬∃ v, LastFor entries name v) →
    s.value name = Settings.default.value name

theorem follows_of_ofEntries {source : Path} {entries : List (Value × Value)}
    (h : ofEntries source entries = .ok s) : Follows entries s := by
  have hknown := known_of_ofEntries h
  have hvalue := (ofEntries_eq_ok_iff source hknown).1 h
  refine ⟨s.takes_value, fun name v hv => ?_, fun name hname hnone => ?_⟩
  · rw [hvalue name (hv.mem_names hknown), (lookup_namedValues hknown).2 hv]
    rfl
  · have hlookup : (namedValues entries).lookup name = none :=
      Option.eq_none_iff_forall_ne_some.2 fun v hv => hnone ⟨v, (lookup_namedValues hknown).1 hv⟩
    rw [hvalue name hname, hlookup]
    rfl

/-- **Which mappings give settings**: those whose keys stand for settings, with values that the
settings take. -/
theorem exists_ofEntries_iff (source : Path) (entries : List (Value × Value)) :
    (∃ s, ofEntries source entries = .ok s) ↔ (∀ e ∈ entries, Known e) ∧
      ∀ name v, LastFor entries name v → Takes name (wrapped name v) := by
  constructor
  · rintro ⟨s, hs⟩
    have hknown := known_of_ofEntries hs
    refine ⟨hknown, fun name v hv => ?_⟩
    rw [← (follows_of_ofEntries hs).last name v hv]
    exact s.takes_value name (hv.mem_names hknown)
  · rintro ⟨hknown, htakes⟩
    have hgiven : ∀ name ∈ names, ∀ v,
        ((namedValues entries).lookup name).map (wrapped name) = some v → Takes name v := by
      intro name _ v hv
      obtain ⟨w, hw, rfl⟩ := Option.map_eq_some_iff.1 hv
      exact htakes name w ((lookup_namedValues hknown).1 hw)
    obtain ⟨s, hs⟩ := exists_of_given Settings.default hgiven
    exact ⟨s, (ofEntries_eq_ok_iff source hknown).2 hs⟩

/-! ## Overrides -/

/-- Overrides: values for settings, at most one for each of them. -/
structure IsOverrides (overrides : Given) : Prop where
  names : ∀ e ∈ overrides, e.1 ∈ names
  nodup : (overrides.map Prod.fst).Nodup

/-- The override for a setting, if there is one and it is not null. -/
def override? (overrides : Given) (name : String) : Option Value :=
  match overrides.lookup name with
  | some .null => none
  | found => found

variable {overrides : Given}

theorem mem_changes {e : String × Value} : e ∈ changes overrides ↔ e ∈ overrides ∧ e.2 ≠ .null := by
  obtain ⟨name, v⟩ := e
  rw [changes, List.mem_filter]
  refine and_congr_right fun _ => ?_
  cases v <;> simp

theorem lookup_eq_some_iff_mem (h : (given.map Prod.fst).Nodup) :
    given.lookup name = some v ↔ (name, v) ∈ given := by
  rw [List.lookup_eq_some_iff]
  constructor
  · rintro ⟨before, after, rfl, -⟩
    simp
  · intro hmem
    obtain ⟨before, after, rfl⟩ := List.append_of_mem hmem
    refine ⟨before, after, rfl, fun e he => ?_⟩
    have hne : name ≠ e.1 := by
      rw [List.map_append, List.nodup_append] at h
      exact (h.2.2 e.1 (List.mem_map_of_mem he) name (by simp)).symm
    simpa using hne

theorem override?_eq_some_iff :
    override? overrides name = some v ↔ overrides.lookup name = some v ∧ v ≠ .null := by
  rw [override?]
  split
  · rename_i hnull
    simp [hnull, eq_comm]
  · rename_i found hfound
    exact ⟨fun h => ⟨h, fun hv => hfound (hv ▸ h)⟩, fun h => h.1⟩

theorem lookup_changes (h : (overrides.map Prod.fst).Nodup) (name : String) :
    (changes overrides).lookup name = override? overrides name := by
  have hchanges : ((changes overrides).map Prod.fst).Nodup :=
    h.sublist (List.filter_sublist.map Prod.fst)
  refine Option.ext fun v => ?_
  rw [lookup_eq_some_iff_mem hchanges, mem_changes, override?_eq_some_iff,
    lookup_eq_some_iff_mem h]

theorem merge_eq (h : ∀ e ∈ overrides, e.1 ∈ names) (s : Settings) :
    s.merge overrides = (s.apply (changes overrides)).mapError (failure commandLine) := by
  have hknown : (changes overrides).find? (fun e => !names.contains e.1) = none := by
    rw [List.find?_eq_none]
    intro e he
    simpa using h e (List.mem_of_mem_filter he)
  rw [merge]
  simp only [hknown]
  split
  · rename_i hempty
    have hsame : s.apply (changes overrides) = .ok s := by
      rw [List.isEmpty_iff.1 hempty]
      exact apply_eq_ok_iff.2 fun name _ => rfl
    rw [hsame]
    rfl
  · rfl

theorem merge_eq_ok_iff (h : IsOverrides overrides) : s.merge overrides = .ok s' ↔
    ∀ name ∈ names, s'.value name = (override? overrides name).getD (s.value name) := by
  rw [merge_eq h.names, mapError_eq_ok_iff, apply_eq_ok_iff]
  simp only [lookup_changes h.nodup]

theorem override?_mem_names (h : IsOverrides overrides) (hv : override? overrides name = some v) :
    name ∈ names := by
  have hlookup := (override?_eq_some_iff.1 hv).1
  exact h.names _ ((lookup_eq_some_iff_mem h.nodup).1 hlookup)

/-- **Which overrides are accepted**: those with values that the settings take. -/
theorem exists_merge_iff (h : IsOverrides overrides) (s : Settings) :
    (∃ s', s.merge overrides = .ok s') ↔
      ∀ name v, override? overrides name = some v → Takes name v := by
  constructor
  · rintro ⟨s', hs'⟩ name v hv
    have hname := override?_mem_names h hv
    have hvalue : s'.value name = v := by
      rw [(merge_eq_ok_iff h).1 hs' name hname, hv]
      rfl
    rw [← hvalue]
    exact s'.takes_value name hname
  · intro htakes
    obtain ⟨s', hs'⟩ := exists_of_given s fun name _ v hv => htakes name v hv
    exact ⟨s', (merge_eq_ok_iff h).2 hs'⟩

theorem merge_eq_error {f : Failure} (h : IsOverrides overrides)
    (hf : s.merge overrides = .error f) : ∃ fault, f = failure commandLine fault := by
  rw [merge_eq h.names] at hf
  cases happly : s.apply (changes overrides) with
  | ok s' =>
    rw [happly] at hf
    cases hf
  | error fault =>
    rw [happly] at hf
    cases hf
    exact ⟨fault, rfl⟩

/-- **Overriding twice is overriding once**, with the later overrides first. -/
theorem merge_merge {first second both : Given} {s₁ s₂ : Settings} (hfirst : IsOverrides first)
    (hsecond : IsOverrides second) (hboth : IsOverrides both)
    (hlater : ∀ name ∈ names,
      override? both name = (override? second name).or (override? first name))
    (h₁ : s.merge first = .ok s₁) (h₂ : s₁.merge second = .ok s₂) : s.merge both = .ok s₂ := by
  refine (merge_eq_ok_iff hboth).2 fun name hname => ?_
  rw [(merge_eq_ok_iff hsecond).1 h₂ name hname, (merge_eq_ok_iff hfirst).1 h₁ name hname,
    hlater name hname]
  cases override? second name <;> rfl

/-- **Settings follow precedence.**  A mapping gives settings if its keys stand for settings and its
values are taken by them; otherwise it is reported, unless a key that cannot be written is met.
The settings follow the mapping.  Overrides are accepted if their values are taken, and otherwise
reported; each setting is then its override or what it was before, and two rounds of overrides do
what one round with the later ones first does. -/
theorem settings_follow_precedence (source : Path) (entries : List (Value × Value)) :
    (MeetsLongKey entries ∧ ofValue source (.map entries) = .error (.scalar .unwritable) ∨
      ¬MeetsLongKey entries ∧ ((∃ s, ofValue source (.map entries) = .ok s) ∨
        ∃ fault, ofValue source (.map entries) = .error (failure source fault))) ∧
    ((∃ s, ofValue source (.map entries) = .ok s) ↔ (∀ e ∈ entries, Known e) ∧
      ∀ name v, LastFor entries name v → Takes name (wrapped name v)) ∧
    ∀ s, ofValue source (.map entries) = .ok s →
      Follows entries s ∧
      (∀ overrides, IsOverrides overrides →
        ((∃ s', s.merge overrides = .ok s') ↔
          ∀ name v, override? overrides name = some v → Takes name v) ∧
        (∀ f, s.merge overrides = .error f → ∃ fault, f = failure commandLine fault) ∧
        ∀ s', s.merge overrides = .ok s' → ∀ name ∈ names, Takes name (s'.value name) ∧
          s'.value name = (override? overrides name).getD (s.value name)) ∧
      ∀ first second both s₁ s₂, IsOverrides first → IsOverrides second → IsOverrides both →
        (∀ name ∈ names,
          override? both name = (override? second name).or (override? first name)) →
        s.merge first = .ok s₁ → s₁.merge second = .ok s₂ → s.merge both = .ok s₂ := by
  refine ⟨?_, exists_ofEntries_iff source entries, fun s hs => ⟨follows_of_ofEntries hs,
    fun overrides h => ⟨exists_merge_iff h s, fun f hf => merge_eq_error h hf, fun s' hs' name
      hname => ⟨s'.takes_value name hname, (merge_eq_ok_iff h).1 hs' name hname⟩⟩,
    fun first second both s₁ s₂ hfirst hsecond hboth => merge_merge hfirst hsecond hboth⟩⟩
  by_cases hlong : MeetsLongKey entries
  · exact .inl ⟨hlong, ofEntries_of_long source hlong⟩
  · exact .inr ⟨hlong, ofEntries_cases source hlong⟩

/-! ## A mapping with two keys for one setting, and one with a long key -/

namespace Sample

/-- Two keys for one setting, and a single pattern. -/
def mixedEntries : List (Value × Value) :=
  [(.text "dashed-imports", .bool false), (.text "exclude", .text "a*"),
    (.text "dashed_imports", .bool true)]

/-- An override, and one that does not count. -/
def jsonOverride : Given := [("format", .text "json"), ("exclude", .null)]

theorem settingName_dashed : settingName (.text "dashed-imports") = "dashed_imports" := by cbv

theorem settingName_exclude : settingName (.text "exclude") = "exclude" := by cbv

theorem settingName_underscored : settingName (.text "dashed_imports") = "dashed_imports" := by cbv

theorem known_mixedEntries : ∀ e ∈ mixedEntries, Known e := by
  simp [mixedEntries, known_iff, Value.isLong, names, settingName_dashed, settingName_exclude,
    settingName_underscored]

theorem takes_mixedEntries {name : String} {v : Value} (h : LastFor mixedEntries name v) :
    Takes name (wrapped name v) := by
  obtain ⟨before, key, after, hsplit, ⟨-, rfl⟩, -⟩ := h
  have hmem : (key, v) ∈ mixedEntries := by simp [hsplit]
  simp only [mixedEntries, List.mem_cons, Prod.mk.injEq, List.not_mem_nil, or_false] at hmem
  rcases hmem with ⟨rfl, rfl⟩ | ⟨rfl, rfl⟩ | ⟨rfl, rfl⟩
  · rw [settingName_dashed]
    exact ⟨false, rfl⟩
  · rw [settingName_exclude]
    exact ⟨["a*"], rfl⟩
  · rw [settingName_underscored]
    exact ⟨true, rfl⟩

theorem lastFor_dashed : LastFor mixedEntries "dashed_imports" (.bool true) :=
  ⟨[_, _], _, [], rfl, ⟨rfl, settingName_underscored⟩, by simp⟩

theorem lastFor_exclude : LastFor mixedEntries "exclude" (.text "a*") := by
  refine ⟨[_], _, [_], rfl, ⟨rfl, settingName_exclude⟩, ?_⟩
  simp [Named, settingName_underscored]

theorem isOverrides_jsonOverride : IsOverrides jsonOverride := by
  constructor <;> simp [jsonOverride, names]

theorem takes_jsonOverride {name : String} {v : Value} (h : override? jsonOverride name = some v) :
    Takes name v := by
  obtain ⟨hlookup, hnull⟩ := override?_eq_some_iff.1 h
  have hmem := (lookup_eq_some_iff_mem isOverrides_jsonOverride.nodup).1 hlookup
  simp only [jsonOverride, List.mem_cons, Prod.mk.injEq, List.not_mem_nil, or_false] at hmem
  rcases hmem with ⟨rfl, rfl⟩ | ⟨-, rfl⟩
  · exact ⟨"json", by simp, rfl⟩
  · exact absurd rfl hnull

/-- The least whole number that is too long to be written, as a key. -/
def longEntries : List (Value × Value) := [(.int (Nat.pow 10 Digits.limit : Nat), .int 1)]

theorem meetsLongKey_longEntries : MeetsLongKey longEntries := by
  have hlong : (Value.int (Nat.pow 10 Digits.limit : Nat)).isLong = true := by
    rw [Value.isLong, Int.natAbs_natCast]
    exact decide_eq_true (Nat.le_refl _)
  exact ⟨[], _, [], rfl, by simp, hlong⟩

/-- Of two keys for one setting the later one holds, a single pattern is a list of one, and an
override holds unless it is null. -/
theorem later_key_and_override_hold :
    ∃ s s', ofValue commandLine (.map mixedEntries) = .ok s ∧
      s.value "dashed_imports" = .bool true ∧ s.value "exclude" = .list [.text "a*"] ∧
      s.merge jsonOverride = .ok s' ∧ s'.value "format" = .text "json" ∧
      s'.value "exclude" = .list [.text "a*"] := by
  obtain ⟨-, hiff, hfollow⟩ := settings_follow_precedence commandLine mixedEntries
  obtain ⟨s, hs⟩ := hiff.2 ⟨known_mixedEntries, fun _ _ => takes_mixedEntries⟩
  obtain ⟨hlast, hmerge, -⟩ := hfollow s hs
  obtain ⟨haccepted, -, hvalue⟩ := hmerge jsonOverride isOverrides_jsonOverride
  obtain ⟨s', hs'⟩ := haccepted.2 fun _ _ => takes_jsonOverride
  have hexclude := hlast.last _ _ lastFor_exclude
  refine ⟨s, s', hs, hlast.last _ _ lastFor_dashed, hexclude, hs', ?_, ?_⟩
  · exact (hvalue s' hs' "format" (by simp [names])).2
  · exact (hvalue s' hs' "exclude" (by simp [names])).2.trans hexclude

/-- A mapping whose only key has too many digits gives no settings, and this is not reported as a
fault of the settings. -/
theorem long_key_not_reported :
    ∃ entries : List (Value × Value), ∀ source, (¬∃ s, ofValue source (.map entries) = .ok s) ∧
      ∀ fault, ofValue source (.map entries) ≠ .error (failure source fault) := by
  refine ⟨longEntries, fun source => ?_⟩
  have herror : ofValue source (.map longEntries) = .error (.scalar .unwritable) :=
    ofEntries_of_long source meetsLongKey_longEntries
  rw [herror]
  refine ⟨?_, fun fault h => ?_⟩
  · rintro ⟨s, h⟩
    cases h
  · cases h

end Sample

end Settings

end CrateAtlas
