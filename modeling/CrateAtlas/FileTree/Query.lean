import CrateAtlas.Failure

/-!
# Asking the file system

A question about a path has an answer, or the run cannot find it out and fails.

* `FileTree.probe` asks whether a path leads to a file or to a directory.  That there is none is an
  answer; a directory that may not be searched, or a name that is too long, leaves none.
* `FileTree.firstFile?` asks for the first of several files, and asks no further than that.
* `FileTree.canonical` resolves a path, unless it leads round in circles.  What a path leads to can
  be resolved (`FileTree.canonical_of_locate`).
-/

set_option autoImplicit false

namespace CrateAtlas.FileTree

/-- The answer to a question about what a path leads to. -/
def probe (t : FileTree) (question : Path → Bool) (p : Path) : Except Failure Bool :=
  match t.obstacle? p with
  | some fault => .error (.blocked fault p)
  | none => .ok (question p)

/-- The first of some paths that leads to a file. -/
def firstFile? (t : FileTree) : List Path → Except Failure (Option Path)
  | [] => .ok none
  | p :: rest =>
    match t.probe t.isFile p with
    | .error f => .error f
    | .ok true => .ok (some p)
    | .ok false => t.firstFile? rest

/-- The location that a path stands for, as a path. -/
def canonical (t : FileTree) (p : Path) : Except Failure Path :=
  bif p.hasNull then .error .nullInPath
  else bif t.loops p then .error (.linkLoop (t.resolve p))
  else .ok (t.resolve p)

variable {t : FileTree} {question : Path → Bool} {p q : Path} {f : Failure}

/-! ## Files and directories -/

theorem isFile_iff :
    t.isFile p = true ↔ p.hasNull = false ∧
      ∃ l octets, t.locate p = .ok l ∧ t.entryAt? l = some (.file octets) := by
  rw [isFile, status?]
  cases p.hasNull with
  | true => simp
  | false =>
    cases t.locate p with
    | error fault => simp
    | ok l =>
      cases he : t.entryAt? l with
      | none => simp [he]
      | some e => cases e <;> simp [he]

theorem isDirectory_iff :
    t.isDirectory p = true ↔ p.hasNull = false ∧
      ∃ l, t.locate p = .ok l ∧ t.entryAt? l = some .directory := by
  rw [isDirectory, status?]
  cases p.hasNull with
  | true => simp
  | false =>
    cases t.locate p with
    | error fault => simp
    | ok l =>
      cases he : t.entryAt? l with
      | none => simp [he]
      | some e => cases e <;> simp [he]

theorem hasNull_of_isFile (h : t.isFile p = true) : p.hasNull = false := (isFile_iff.1 h).1

/-- What can be read is a file. -/
theorem isFile_of_read {octets : List Nat} (hnull : p.hasNull = false)
    (h : t.read p = .ok octets) : t.isFile p = true := by
  obtain ⟨l, hl, he, -⟩ := read_eq_ok h
  exact isFile_iff.2 ⟨hnull, l, octets, hl, he⟩

/-! ## Answers -/

theorem probe_eq_ok_iff {answer : Bool} :
    t.probe question p = .ok answer ↔ t.obstacle? p = none ∧ question p = answer := by
  rw [probe]
  cases t.obstacle? p <;> simp

theorem probe_eq_error_iff :
    t.probe question p = .error f ↔ ∃ fault, t.obstacle? p = some fault ∧ f = .blocked fault p := by
  rw [probe]
  cases t.obstacle? p <;> simp [@eq_comm _ f]

/-- Nothing is in the way of a path that leads somewhere. -/
theorem obstacle?_of_locate {l : Location} (h : t.locate p = .ok l) : t.obstacle? p = none := by
  rw [obstacle?, h]
  cases p.hasNull <;> rfl

theorem probe_of_isFile (h : t.isFile p = true) : t.probe t.isFile p = .ok true := by
  obtain ⟨-, l, -, hl, -⟩ := isFile_iff.1 h
  exact probe_eq_ok_iff.2 ⟨obstacle?_of_locate hl, h⟩

theorem probe_of_isDirectory (h : t.isDirectory p = true) :
    t.probe t.isDirectory p = .ok true := by
  obtain ⟨-, l, hl, -⟩ := isDirectory_iff.1 h
  exact probe_eq_ok_iff.2 ⟨obstacle?_of_locate hl, h⟩

/-! ## The first file -/

/-- It can be found out that a path leads to no file. -/
def IsAbsent (t : FileTree) (p : Path) : Prop := t.obstacle? p = none ∧ t.isFile p = false

theorem probe_of_isAbsent (h : t.IsAbsent p) : t.probe t.isFile p = .ok false :=
  probe_eq_ok_iff.2 h

/-- `p` is the first of the paths about which it cannot be found out whether it leads to a file, and
no path before it does. -/
def IsFirstBlocked (t : FileTree) (ps : List Path) (fault : AccessFault) (p : Path) : Prop :=
  ∃ before after, ps = before ++ p :: after ∧ (∀ q ∈ before, t.IsAbsent q) ∧
    t.obstacle? p = some fault

/-- `p` is the first of the paths that leads to a file. -/
def IsFirstFile (t : FileTree) (ps : List Path) (p : Path) : Prop :=
  ∃ before after, ps = before ++ p :: after ∧ (∀ q ∈ before, t.IsAbsent q) ∧ t.isFile p = true

theorem firstFile?_append {before : List Path} (h : ∀ q ∈ before, t.IsAbsent q)
    (rest : List Path) : t.firstFile? (before ++ rest) = t.firstFile? rest := by
  induction before with
  | nil => rfl
  | cons q before ih =>
    obtain ⟨hq, hbefore⟩ := List.forall_mem_cons.1 h
    rw [List.cons_append, firstFile?, probe_of_isAbsent hq]
    exact ih hbefore

theorem firstFile?_of_isFirstBlocked {ps : List Path} {fault : AccessFault}
    (h : t.IsFirstBlocked ps fault p) : t.firstFile? ps = .error (.blocked fault p) := by
  obtain ⟨before, after, rfl, hbefore, hp⟩ := h
  rw [firstFile?_append hbefore, firstFile?, probe_eq_error_iff.2 ⟨fault, hp, rfl⟩]

theorem firstFile?_of_isFirstFile {ps : List Path} (h : t.IsFirstFile ps p) :
    t.firstFile? ps = .ok (some p) := by
  obtain ⟨before, after, rfl, hbefore, hp⟩ := h
  rw [firstFile?_append hbefore, firstFile?, probe_of_isFile hp]

theorem firstFile?_of_forall {ps : List Path} (h : ∀ q ∈ ps, t.IsAbsent q) :
    t.firstFile? ps = .ok none := by
  have hnil := firstFile?_append h []
  rwa [List.append_nil] at hnil

/-- **How the search for the first file ends**: with that file, with none, or at a path about which
it cannot be found out. -/
theorem firstFile?_cases (t : FileTree) (ps : List Path) :
    (∃ p, t.IsFirstFile ps p) ∨ (∀ q ∈ ps, t.IsAbsent q) ∨
      ∃ fault p, t.IsFirstBlocked ps fault p := by
  induction ps with
  | nil => exact .inr (.inl (by simp))
  | cons p rest ih =>
    cases ho : t.obstacle? p with
    | some fault => exact .inr (.inr ⟨fault, p, [], rest, rfl, by simp, ho⟩)
    | none =>
      cases hp : t.isFile p with
      | true => exact .inl ⟨p, [], rest, rfl, by simp, hp⟩
      | false =>
        have hbefore : ∀ {before : List Path}, (∀ q ∈ before, t.IsAbsent q) →
            ∀ q ∈ p :: before, t.IsAbsent q :=
          fun h => List.forall_mem_cons.2 ⟨⟨ho, hp⟩, h⟩
        rcases ih with ⟨q, before, after, rfl, h, hq⟩ | h | ⟨fault, q, before, after, rfl, h, hq⟩
        · exact .inl ⟨q, p :: before, after, rfl, hbefore h, hq⟩
        · exact .inr (.inl (hbefore h))
        · exact .inr (.inr ⟨fault, q, p :: before, after, rfl, hbefore h, hq⟩)

theorem firstFile?_eq_some_iff {ps : List Path} :
    t.firstFile? ps = .ok (some p) ↔ t.IsFirstFile ps p := by
  refine ⟨fun h => ?_, firstFile?_of_isFirstFile⟩
  rcases t.firstFile?_cases ps with ⟨q, hq⟩ | hq | ⟨fault, q, hq⟩
  · cases h.symm.trans (firstFile?_of_isFirstFile hq)
    exact hq
  · cases h.symm.trans (firstFile?_of_forall hq)
  · cases h.symm.trans (firstFile?_of_isFirstBlocked hq)

theorem firstFile?_eq_none_iff {ps : List Path} :
    t.firstFile? ps = .ok none ↔ ∀ q ∈ ps, t.IsAbsent q := by
  refine ⟨fun h => ?_, firstFile?_of_forall⟩
  rcases t.firstFile?_cases ps with ⟨q, hq⟩ | hq | ⟨fault, q, hq⟩
  · cases h.symm.trans (firstFile?_of_isFirstFile hq)
  · exact hq
  · cases h.symm.trans (firstFile?_of_isFirstBlocked hq)

theorem firstFile?_eq_error_iff {ps : List Path} :
    t.firstFile? ps = .error f ↔
      ∃ fault p, t.IsFirstBlocked ps fault p ∧ f = .blocked fault p := by
  constructor
  · intro h
    rcases t.firstFile?_cases ps with ⟨q, hq⟩ | hq | ⟨fault, q, hq⟩
    · cases h.symm.trans (firstFile?_of_isFirstFile hq)
    · cases h.symm.trans (firstFile?_of_forall hq)
    · cases h.symm.trans (firstFile?_of_isFirstBlocked hq)
      exact ⟨fault, q, hq, rfl⟩
  · rintro ⟨fault, p, hp, rfl⟩
    exact firstFile?_of_isFirstBlocked hp

/-! ## Resolved paths -/

theorem canonical_eq_ok_iff :
    t.canonical p = .ok q ↔ p.hasNull = false ∧ t.loops p = false ∧ q = t.resolve p := by
  rw [canonical]
  cases p.hasNull with
  | true => simp
  | false => cases t.loops p <;> simp [@eq_comm _ q]

theorem canonical_eq_error_iff :
    t.canonical p = .error f ↔
      p.hasNull = true ∧ f = .nullInPath ∨
        p.hasNull = false ∧ t.loops p = true ∧ f = .linkLoop (t.resolve p) := by
  rw [canonical]
  cases p.hasNull with
  | true => simp [@eq_comm _ f]
  | false => cases t.loops p <;> simp [@eq_comm _ f]

/-- A path that cannot be resolved is no matter of a diagnostic. -/
theorem isFatal_of_canonical (h : t.canonical p = .error f) : f.isFatal = true := by
  obtain ⟨-, rfl⟩ | ⟨-, -, rfl⟩ := canonical_eq_error_iff.1 h <;> rfl

theorem canonical_eq_ok (h : t.canonical p = .ok q) : q = t.resolve p :=
  (canonical_eq_ok_iff.1 h).2.2

/-- What a path leads to can be resolved. -/
theorem canonical_of_locate {l : Location} (hnull : p.hasNull = false) (h : t.locate p = .ok l) :
    t.canonical p = .ok (t.resolve p) :=
  canonical_eq_ok_iff.2 ⟨hnull, loops_of_locate h, rfl⟩

theorem canonical_of_isDirectory (h : t.isDirectory p = true) :
    t.canonical p = .ok (t.resolve p) := by
  obtain ⟨hnull, l, hl, -⟩ := isDirectory_iff.1 h
  exact canonical_of_locate hnull hl

end CrateAtlas.FileTree
