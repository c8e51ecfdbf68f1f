import Mathlib.Data.List.Infix
import CrateAtlas.Proofs.RootFiles

/-!
# Texts of one line

What a diagnostic says is put together from names, paths, numbers and the reasons for which a file
cannot be read or parsed.  This file says of each of these when it has no line breaks.

* What a line break is, is left open (`LineBreaks`): it may be the line feed alone, or any of the
  characters that end a line in the wide sense.
* Reading a path keeps all line breaks (`Path.oneLine_parse`).
* **What can be read has a path without line breaks**, if no name in the tree has one: each part of
  the path is the name of something (`FileTree.OneLine.of_read`).
-/

set_option autoImplicit false

namespace CrateAtlas

/-- A notion of line breaks.  The line feed is one, and nothing is one that does not end a line in
the wide sense. -/
structure LineBreaks where
  isBreak : Char → Bool
  lineFeed : isBreak '\n' = true
  ofWide : ∀ c, Text.isBreak c = false → isBreak c = false

/-- Line breaks in the wide sense. -/
def LineBreaks.wide : LineBreaks := ⟨Text.isBreak, rfl, fun _ h => h⟩

variable {b : LineBreaks}

/-! ## Texts of one line -/

/-- A text without line breaks. -/
def LineBreaks.OneLine (b : LineBreaks) (text : String) : Prop :=
  ∀ c ∈ text.toList, b.isBreak c = false

namespace LineBreaks

theorem oneLine_ofList {cs : List Char} (h : cs.any Text.isBreak = false) :
    b.OneLine (String.ofList cs) := by
  intro c hc
  rw [String.toList_ofList] at hc
  rw [List.any_eq_false] at h
  exact b.ofWide c (by simpa using h c hc)

@[simp] theorem oneLine_append {s u : String} :
    b.OneLine (s ++ u) ↔ b.OneLine s ∧ b.OneLine u := by
  simp only [OneLine, String.toList_append, List.forall_mem_append]

theorem oneLine_intercalate {separator : String} (h : b.OneLine separator) {texts : List String} :
    b.OneLine (separator.intercalate texts) ↔ ∀ text ∈ texts, b.OneLine text := by
  simp only [OneLine, String.toList_intercalate]
  induction texts with
  | nil => simp
  | cons text texts ih =>
    cases texts with
    | nil => simp
    | cons next texts =>
      rw [List.forall_mem_cons, ← ih, List.map_cons, List.map_cons, List.intercalate_cons_cons,
        List.forall_mem_append, List.forall_mem_append]
      exact ⟨fun ⟨⟨htext, _⟩, hrest⟩ => ⟨htext, hrest⟩, fun ⟨htext, hrest⟩ => ⟨⟨htext, h⟩, hrest⟩⟩

theorem isBreak_of_printable {c : Char} (h : 0x20 ≤ c.toNat) (h' : c.toNat < 0x7F) :
    b.isBreak c = false := by
  refine b.ofWide c ?_
  simp only [Text.isBreak, Bool.or_eq_false_iff, Bool.and_eq_false_iff, decide_eq_false_iff_not]
  omega

theorem oneLine_nat (n : Nat) : b.OneLine (toString n) := by
  intro c hc
  have hmem : c ∈ Nat.toDigits 10 n := by simpa [toString, Nat.repr] using hc
  have hdigit : c.isDigit = true := Nat.isDigit_of_mem_toDigits (by decide) (by decide) hmem
  simp only [Char.isDigit, Bool.and_eq_true, decide_eq_true_eq] at hdigit
  have hlow : 48 ≤ c.toNat := hdigit.1
  have hhigh : c.toNat ≤ 57 := hdigit.2
  exact isBreak_of_printable (by omega) (by omega)

theorem oneLine_int (n : Int) : b.OneLine (toString n) := by
  cases n with
  | ofNat n => exact oneLine_nat n
  | negSucc n =>
    have hsign : b.OneLine "-" := oneLine_ofList rfl
    have htext : toString (Int.negSucc n) = "-" ++ toString (n + 1) := rfl
    rw [htext, oneLine_append]
    exact ⟨hsign, oneLine_nat _⟩

end LineBreaks

/-! ## Paths of one line -/

namespace Path

/-- A path without line breaks. -/
def OneLine (b : LineBreaks) (p : Path) : Prop := ∀ part ∈ p.parts, b.OneLine part

variable {p : Path} {text : String}

theorem oneLine_render : b.OneLine p.render ↔ p.OneLine b := by
  have hanchor : b.OneLine p.anchor.text := by
    cases p.anchor <;> exact LineBreaks.oneLine_ofList rfl
  have hslash : b.OneLine "/" := LineBreaks.oneLine_ofList rfl
  rw [render.eq_def]
  split
  · rename_i hparts
    have hdot : b.OneLine "." := LineBreaks.oneLine_ofList rfl
    simp [OneLine, hparts, hdot]
  · rw [LineBreaks.oneLine_append, LineBreaks.oneLine_intercalate hslash]
    exact and_iff_right hanchor

theorem mem_of_mem_cut {part cs piece : List Char} (h : piece ∈ cut part cs) {c : Char}
    (hc : c ∈ piece) : c ∈ part ∨ c ∈ cs := by
  fun_induction cut part cs with
  | case1 part =>
    obtain rfl := List.mem_singleton.1 h
    exact .inl (List.mem_reverse.1 hc)
  | case2 part cs ih =>
    rcases List.mem_cons.1 h with rfl | h
    · exact .inl (List.mem_reverse.1 hc)
    · exact .inr (List.mem_cons_of_mem _ ((ih h).resolve_left List.not_mem_nil))
  | case3 part c' cs hslash ih =>
    rcases ih h with h | h
    · rcases List.mem_cons.1 h with rfl | h
      · exact .inr List.mem_cons_self
      · exact .inl h
    · exact .inr (List.mem_cons_of_mem _ h)

theorem exists_mem_cut {part cs : List Char} {c : Char} (hc : c ∈ part ∨ c ∈ cs) (hne : c ≠ '/') :
    ∃ piece ∈ cut part cs, c ∈ piece := by
  fun_induction cut part cs with
  | case1 part => exact ⟨part.reverse, List.mem_singleton_self _, by simpa using hc⟩
  | case2 part cs ih =>
    rcases hc with hc | hc
    · exact ⟨part.reverse, List.mem_cons_self, List.mem_reverse.2 hc⟩
    · obtain ⟨piece, hpiece, hmem⟩ := ih (.inr ((List.mem_cons.1 hc).resolve_left hne))
      exact ⟨piece, List.mem_cons_of_mem _ hpiece, hmem⟩
  | case3 part c' cs hslash ih =>
    refine ih ?_
    rw [List.mem_cons] at hc ⊢
    tauto

theorem mem_of_mem_parse {part : String} (h : part ∈ (parse text).parts) {c : Char}
    (hc : c ∈ part.toList) : c ∈ text.toList := by
  obtain ⟨piece, hpiece, rfl⟩ := List.mem_map.1 (List.mem_filter.1 h).1
  rw [String.toList_ofList] at hc
  exact (mem_of_mem_cut (List.mem_filter.1 hpiece).1 hc).resolve_left List.not_mem_nil

theorem exists_mem_parse {c : Char} (hc : c ∈ text.toList) (hslash : c ≠ '/') (hdot : c ≠ '.') :
    ∃ part ∈ (parse text).parts, c ∈ part.toList := by
  obtain ⟨piece, hpiece, hmem⟩ := exists_mem_cut (.inr hc : c ∈ [] ∨ c ∈ text.toList) hslash
  refine ⟨String.ofList piece, List.mem_filter.2 ⟨List.mem_map_of_mem (List.mem_filter.2
    ⟨hpiece, ?_⟩), ?_⟩, by simpa using hmem⟩
  · simpa using List.ne_nil_of_mem hmem
  · have hne : String.ofList piece ≠ "." := by
      intro h
      have hpiece : piece = ['.'] := by simpa using congrArg String.toList h
      rw [hpiece, List.mem_singleton] at hmem
      exact hdot hmem
    simpa using hne

/-- Reading a path loses no line break. -/
theorem oneLine_parse : (parse text).OneLine b ↔ b.OneLine text := by
  constructor
  · intro h c hc
    by_cases hslash : c = '/'
    · rw [hslash]
      exact LineBreaks.isBreak_of_printable (by decide) (by decide)
    by_cases hdot : c = '.'
    · rw [hdot]
      exact LineBreaks.isBreak_of_printable (by decide) (by decide)
    obtain ⟨part, hpart, hmem⟩ := exists_mem_parse hc hslash hdot
    exact h part hpart c hmem
  · intro h part hpart c hc
    exact h c (mem_of_mem_parse hpart hc)

theorem oneLine_join (h : p.OneLine b) : (p.join text).OneLine b ↔ b.OneLine text := by
  rw [← oneLine_parse, join, append]
  split
  · rfl
  · simp only [OneLine, List.forall_mem_append]
    exact and_iff_right h

theorem OneLine.parent (h : p.OneLine b) : p.parent.OneLine b :=
  fun part hpart => h part (List.mem_of_mem_dropLast hpart)

theorem OneLine.name (h : p.OneLine b) : b.OneLine p.name := by
  rw [Path.name]
  cases hlast : p.parts.getLast? with
  | none => exact LineBreaks.oneLine_ofList rfl
  | some part => exact h part (List.mem_of_getLast? hlast)

theorem mem_of_mem_stem {c : Char} (h : c ∈ p.stem.toList) : c ∈ p.name.toList := by
  rw [stem, String.toList_ofList, cutName] at h
  split at h
  · exact h
  · rw [List.mem_reverse] at h
    exact List.mem_reverse.1 ((List.dropWhile_sublist _).mem (List.mem_of_mem_drop h))

theorem OneLine.stem (h : p.OneLine b) : b.OneLine p.stem :=
  fun c hc => h.name c (mem_of_mem_stem hc)

end Path

/-! ## File trees with names of one line -/

namespace FileTree

/-- A tree in which no name has a line break. -/
def OneLine (b : LineBreaks) (t : FileTree) : Prop :=
  ∀ l e, (l, e) ∈ t.entries → ∀ name ∈ l, b.OneLine name

variable {t : FileTree} {l : Location} {p : Path}

theorem OneLine.location (ht : t.OneLine b) {e : Entry} (h : t.entryAt? l = some e) :
    ∀ name ∈ l, b.OneLine name := by
  rw [entryAt?] at h
  split at h
  · rename_i hempty
    simp [List.isEmpty_iff.1 hempty]
  · exact ht l e (mem_of_lookup h)

theorem entryAt?_of_barrier? (h : t.barrier? l = none) : t.entryAt? l = some .directory := by
  rw [barrier?] at h
  split at h
  · assumption
  · cases h
  · cases h

theorem entryAt?_of_linkAt? {target : String} (h : t.linkAt? l = some target) :
    t.entryAt? l = some (.link target) := by
  rw [linkAt?] at h
  split at h
  · cases h
    assumption
  · cases h

/-- **What can be found has no line break in it**: each component leads to something, and so it is
the name of an entry. -/
theorem OneLine.leads (ht : t.OneLine b) {parts : List String} {m : Location} {n : Nat}
    (h : Leads t parts l m n) (hend : ∃ e, t.entryAt? m = some e) :
    (∃ e, t.entryAt? l = some e) ∧ ∀ part ∈ parts, b.OneLine part := by
  have hname : ∀ {l part e}, t.entryAt? (l ++ [part]) = some e → b.OneLine part := fun hentry =>
    ht.location hentry _ (by simp)
  induction h with
  | nil => exact ⟨hend, by simp⟩
  | dot hopen hpart _ ih =>
    refine ⟨⟨_, entryAt?_of_barrier? hopen⟩, List.forall_mem_cons.2 ⟨?_, (ih hend).2⟩⟩
    rw [hpart]
    exact LineBreaks.oneLine_ofList rfl
  | up hopen hpart _ ih =>
    refine ⟨⟨_, entryAt?_of_barrier? hopen⟩, List.forall_mem_cons.2 ⟨?_, (ih hend).2⟩⟩
    rw [hpart]
    exact LineBreaks.oneLine_ofList rfl
  | name hopen _ _ _ _ _ ih =>
    obtain ⟨⟨e, he⟩, hrest⟩ := ih hend
    exact ⟨⟨_, entryAt?_of_barrier? hopen⟩, List.forall_mem_cons.2 ⟨hname he, hrest⟩⟩
  | link hopen _ _ _ hlink _ _ _ ihrest =>
    exact ⟨⟨_, entryAt?_of_barrier? hopen⟩,
      List.forall_mem_cons.2 ⟨hname (entryAt?_of_linkAt? hlink), (ihrest hend).2⟩⟩

theorem OneLine.of_read (ht : t.OneLine b) {octets : List Nat} (h : t.read p = .ok octets) :
    p.OneLine b ∧ (t.resolve p).OneLine b := by
  obtain ⟨l, hlocate, hentry, -⟩ := read_eq_ok h
  obtain ⟨n, hleads⟩ := leads_of_locate hlocate
  obtain ⟨-, hparts⟩ := ht.leads hleads ⟨_, hentry⟩
  refine ⟨fun part hpart => hparts part ?_, ?_⟩
  · rw [trail]
    split
    · exact hpart
    · exact List.mem_append_right _ hpart
  · rw [resolve_of_locate hlocate]
    exact ht.location hentry

end FileTree

/-! ## Parts of messages -/

namespace LineBreaks

theorem oneLine_accessFault (fault : AccessFault) : b.OneLine fault.message := by
  cases fault <;> exact oneLine_ofList rfl

theorem oneLine_octetText (n : Nat) : b.OneLine (Text.octetText n) := by
  have hascii : ∀ m, 0x20 ≤ m → m < 0x7F → b.isBreak (Char.ofNat m) = false := by
    intro m hlow hhigh
    have hnumber : (Char.ofNat m).toNat = m := by
      have hvalid : m.isValidChar := .inl (by omega)
      rw [Char.ofNat, dif_pos hvalid]
      rfl
    exact isBreak_of_printable (by omega) (by omega)
  have hdigit : ∀ m < 16, b.isBreak
      (if m < 10 then Char.ofNat (48 + m) else Char.ofNat (87 + m)) = false := by
    intro m hm
    split
    · exact hascii _ (by omega) (by omega)
    · exact hascii _ (by omega) (by omega)
  intro c hc
  simp only [Text.octetText, String.toList_ofList, List.mem_cons, List.not_mem_nil, or_false] at hc
  rcases hc with rfl | rfl
  · exact hdigit _ (Nat.mod_lt _ (by decide))
  · exact hdigit _ (Nat.mod_lt _ (by decide))

theorem oneLine_utf8Fault (fault : Text.Utf8Fault) : b.OneLine fault.message := by
  have hproblem : b.OneLine fault.problem.message := by
    cases fault.problem <;> exact oneLine_ofList rfl
  have hcodec : b.OneLine "'utf-8' codec can't decode " := oneLine_ofList rfl
  have hcolon : b.OneLine ": " := oneLine_ofList rfl
  have hbyte : b.OneLine "byte 0x" := oneLine_ofList rfl
  have hbytes : b.OneLine "bytes in position " := oneLine_ofList rfl
  have hposition : b.OneLine " in position " := oneLine_ofList rfl
  have hdash : b.OneLine "-" := oneLine_ofList rfl
  show b.OneLine ("'utf-8' codec can't decode " ++
    (if fault.stop = fault.start + 1 then
      "byte 0x" ++ Text.octetText fault.first ++ " in position " ++ toString fault.start
    else "bytes in position " ++ toString fault.start ++ "-" ++ toString (fault.stop - 1)) ++
    ": " ++ fault.problem.message)
  rw [oneLine_append, oneLine_append, oneLine_append]
  refine ⟨⟨⟨hcodec, ?_⟩, hcolon⟩, hproblem⟩
  split
  · simp only [oneLine_append, hbyte, oneLine_octetText, hposition, oneLine_nat, and_self]
  · simp only [oneLine_append, hbytes, oneLine_nat, hdash, and_self]

/-- The reason why a file cannot be read has no line break. -/
theorem oneLine_reason {t : FileTree} {file other : Path} {reason : String}
    (h : Source.readText t file = .error (.unreadable other reason)) : b.OneLine reason := by
  rw [Source.readText] at h
  split at h
  · cases h
    exact oneLine_accessFault _
  · split at h
    · cases h
      exact oneLine_utf8Fault _
    · cases h

/-- What ends a line is in no line. -/
theorem isBreak_of_mem_linesFrom {line cs found : List Char}
    (hline : ∀ c ∈ line, Text.isBreak c = false) (h : found ∈ Text.linesFrom line cs) :
    ∀ c ∈ found, Text.isBreak c = false := by
  fun_induction Text.linesFrom line cs with
  | case1 => simp at h
  | case2 line hempty =>
    obtain rfl := List.mem_singleton.1 h
    simpa using hline
  | case3 line cs ih =>
    rcases List.mem_cons.1 h with rfl | h
    · simpa using hline
    · exact ih (by simp) h
  | case4 line c cs hpair hbreak ih =>
    rcases List.mem_cons.1 h with rfl | h
    · simpa using hline
    · exact ih (by simp) h
  | case5 line c cs hpair hbreak ih =>
    refine ih (List.forall_mem_cons.2 ⟨by simpa using hbreak, hline⟩) h

theorem oneLine_firstWords (text : String) : b.OneLine (Node.firstWords text) := by
  rw [Node.firstWords]
  split
  · exact oneLine_ofList rfl
  · rename_i line rest hlines
    intro c hc
    rw [String.toList_ofList] at hc
    have hmem : line ∈ Text.linesFrom [] (Text.trim text.toList) := by
      rw [← Text.lines, hlines]
      exact List.mem_cons_self
    exact b.ofWide c (isBreak_of_mem_linesFrom (by simp) hmem c (List.mem_of_mem_take hc))

theorem oneLine_problem {n : Node} (h : n.missing = true → b.OneLine n.kind) :
    b.OneLine n.problem := by
  have hquote : b.OneLine "'" := oneLine_ofList rfl
  rw [Node.problem]
  split
  · rename_i hmissing
    have hword : b.OneLine "missing '" := oneLine_ofList rfl
    simp [hword, h hmissing, hquote]
  · split
    · exact oneLine_ofList rfl
    · have hword : b.OneLine "unexpected '" := oneLine_ofList rfl
      simp [hword, oneLine_firstWords, hquote]

end LineBreaks

/-! ## Messages -/

namespace Diagnostic

theorem oneLine_unreadable {file : Path} {reason : String} :
    b.OneLine (message (.unreadable file reason)) ↔ file.OneLine b ∧ b.OneLine reason := by
  have hwords : b.OneLine ": failed to read source: " := LineBreaks.oneLine_ofList rfl
  simp [message, Path.oneLine_render, hwords]

theorem oneLine_notRust {file : Path} {problem : String} (line column : Int)
    (hfile : file.OneLine b) (h : b.OneLine problem) :
    b.OneLine (message (.notRust file line column problem)) := by
  have hwords : b.OneLine ": syntax error: " := LineBreaks.oneLine_ofList rfl
  have hcolon : b.OneLine ":" := LineBreaks.oneLine_ofList rfl
  simp only [message, LineBreaks.oneLine_append, Path.oneLine_render, LineBreaks.oneLine_int,
    hfile, hwords, hcolon, h, and_self]

theorem oneLine_lead {file : Path} (h : file.OneLine b) : b.OneLine (lead (some file)) := by
  have hcolon : b.OneLine ": " := LineBreaks.oneLine_ofList rfl
  simp [lead, Path.oneLine_render, h, hcolon]

theorem oneLine_noModuleFile {module : String} {expected : List Path} {file : Path}
    (hmodule : b.OneLine module) (hexpected : ∀ p ∈ expected, p.OneLine b)
    (hfile : file.OneLine b) :
    b.OneLine (message (.noModuleFile module expected (some file))) := by
  have hword : b.OneLine "module '" := LineBreaks.oneLine_ofList rfl
  have hwords : b.OneLine "' not found, expected " := LineBreaks.oneLine_ofList rfl
  have hor : b.OneLine " or " := LineBreaks.oneLine_ofList rfl
  simpa [message, oneLine_lead hfile, hword, hmodule, hwords, LineBreaks.oneLine_intercalate hor,
    Path.oneLine_render] using hexpected

theorem oneLine_circular {module : String} {target file : Path} (hmodule : b.OneLine module)
    (htarget : target.OneLine b) (hfile : file.OneLine b) :
    b.OneLine (message (.circular module target (some file))) := by
  have hwords : b.OneLine "circular module '" := LineBreaks.oneLine_ofList rfl
  have hcomma : b.OneLine "', " := LineBreaks.oneLine_ofList rfl
  have hend : b.OneLine " is already loaded" := LineBreaks.oneLine_ofList rfl
  simp [message, oneLine_lead hfile, Path.oneLine_render, hwords, hmodule, hcomma, htarget, hend]

end Diagnostic

theorem ModulePath.oneLine_render {p : ModulePath} (h : ∀ name ∈ p.segments, b.OneLine name) :
    b.OneLine p.render := by
  have hcolons : b.OneLine "::" := LineBreaks.oneLine_ofList rfl
  rw [render]
  split
  · exact LineBreaks.oneLine_ofList rfl
  · exact (LineBreaks.oneLine_intercalate hcolons).2 h

end CrateAtlas
