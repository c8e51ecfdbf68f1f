import Mathlib.Data.List.TakeWhile
import CrateAtlas.Proofs.Calls

/-!
# The first call counts

What is in a graph after a run of calls, read off the calls alone.  The calls are those that stay
with the graph: they add modules, edges and diagnostics or freeze it, in any order, and many of them
may be refused.

Whether a call adds its entry depends on the calls *before* it, and on nothing else.

* `Creates` — **the specification**: the call for a module is the first one for its path, and that
  for an edge is the first one for its ends among those that come after both ends (`Counts`).
  Nothing is created after the graph was frozen.
* `Records` — a graph is as such calls leave it.  One more call keeps that (`Records.after`), since
  it is answered with yes exactly if it creates its entry (`Records.answered_iff`).
* `first_call_wins` — the graph after a run holds what was created, and the calls that created it
  are those that were answered with yes.

A call in a run is given by the calls up to it: `before ++ [c]` is a beginning of the run.
-/

set_option autoImplicit false

namespace CrateAtlas

namespace Call

/-- A module with the path was asked for. -/
def Named (before : List Call) (path : ModulePath) : Prop :=
  ∃ m, addModule m ∈ before ∧ m.path = path

/-- A call for an edge counts after these calls: the graph is not frozen, and both ends were asked
for. -/
structure Counts (before : List Call) (source target : ModulePath) : Prop where
  isOpen : freeze ∉ before
  source : Named before source
  target : Named before target

/-- One of the calls is for an edge from `source` to `target`, and counted when it was made. -/
def Joined (calls : List Call) (source target : ModulePath) : Prop :=
  ∃ before kind, before ++ [addEdge ⟨source, target, kind⟩] <+: calls ∧ Counts before source target

/-- **What a call creates** when it is made after these calls. -/
inductive Creates (before : List Call) : Call → Prop
  /-- The first call for a path. -/
  | module {m : Module} (ho : freeze ∉ before) (hfirst : ¬Named before m.path) :
      Creates before (addModule m)
  /-- The first call for a pair of ends that counts. -/
  | edge {e : Edge} (hc : Counts before e.source e.target) (hl : e.source ≠ e.target)
      (hfirst : ¬Joined before e.source e.target) : Creates before (addEdge e)
  | diagnostic {d : Diagnostic} (ho : freeze ∉ before) : Creates before (addDiagnostic d)

/-- Whether a call freezes the graph. -/
def freezes : Call → Bool
  | .freeze => true
  | _ => false

/-- The diagnostic that a call asks for. -/
def diagnostic? : Call → Option Diagnostic
  | .addDiagnostic d => some d
  | _ => none

theorem named_concat_iff {calls : List Call} {c : Call} {path : ModulePath} :
    Named (calls ++ [c]) path ↔ Named calls path ∨ ∃ m, c = addModule m ∧ m.path = path := by
  simp only [Named, List.mem_append, List.mem_singleton, or_and_right, exists_or, eq_comm]

theorem joined_concat_iff {calls : List Call} {c : Call} {source target : ModulePath} :
    Joined (calls ++ [c]) source target ↔
      Joined calls source target ∨
        (∃ kind, c = addEdge ⟨source, target, kind⟩) ∧ Counts calls source target := by
  constructor
  · rintro ⟨before, kind, hmade, hc⟩
    rcases List.prefix_concat_iff.1 hmade with heq | hmade
    · obtain ⟨rfl, rfl⟩ := List.append_singleton_inj.1 heq
      exact .inr ⟨⟨kind, rfl⟩, hc⟩
    · exact .inl ⟨before, kind, hmade, hc⟩
  · rintro (⟨before, kind, hmade, hc⟩ | ⟨⟨kind, rfl⟩, hc⟩)
    · exact ⟨before, kind, hmade.trans (List.prefix_append _ _), hc⟩
    · exact ⟨calls, kind, List.prefix_rfl, hc⟩

theorem freezes_iff {c : Call} : c.freezes = true ↔ c = freeze := by
  cases c <;> simp [freezes]

/-- The diagnostics that were asked for before the graph was frozen, in order. -/
def noted (calls : List Call) : List Diagnostic :=
  (calls.takeWhile fun c => !c.freezes).filterMap diagnostic?

theorem noted_concat_of_open {calls : List Call} (ho : freeze ∉ calls) (c : Call) :
    noted (calls ++ [c]) = noted calls ++ c.diagnostic?.toList := by
  have hall : ∀ c' ∈ calls, (!c'.freezes) = true := by
    intro c' hc'
    rw [Bool.not_eq_true', Bool.eq_false_iff, Ne, freezes_iff]
    rintro rfl
    exact ho hc'
  rw [noted, noted, List.takeWhile_append_of_pos hall, List.filterMap_append,
    List.takeWhile_eq_self_iff.2 hall]
  cases c <;> rfl

theorem noted_concat_of_frozen {calls : List Call} (hf : freeze ∈ calls) (c : Call) :
    noted (calls ++ [c]) = noted calls := by
  obtain ⟨before, after, rfl⟩ := List.append_of_mem hf
  -- The calls up to that freeze are all that count.
  rw [noted, noted, List.append_assoc, List.cons_append, List.takeWhile_append,
    List.takeWhile_append]
  rfl

end Call

namespace ModuleGraph

variable {g : ModuleGraph} {c : Call}

/-! ## One call -/

/-- A call is answered with yes. -/
def Answered (g : ModuleGraph) (c : Call) : Prop := ∃ g', c.work.run g = .ok true g'

theorem answered_iff : Answered g c ↔ ∃ g', g.attempt c = .ok (g', true) := by
  refine exists_congr fun g' => ?_
  rw [run_work_eq]
  cases g.attempt c with
  | error f => simp
  | ok r => simp [Prod.ext_iff, and_comm]

theorem after_eq (g : ModuleGraph) (c : Call) :
    g.after c = ((g.attempt c).toOption.map Prod.fst).getD g := by
  rw [after, run_work_eq]
  cases g.attempt c <;> rfl

theorem answered_addModule_iff {m : Module} :
    Answered g (.addModule m) ↔ g.frozen = false ∧ g.contains m.path = false := by
  rw [answered_iff, attempt, addModule]
  cases g.frozen <;> cases g.contains m.path <;> simp

theorem after_addModule (g : ModuleGraph) (m : Module) :
    g.after (.addModule m) =
      if g.frozen = false ∧ g.contains m.path = false then { g with modules := g.modules ++ [m] }
      else g := by
  rw [after_eq, attempt, addModule]
  cases g.frozen <;> cases g.contains m.path <;> simp [Except.toOption]

theorem answered_addEdge_iff {e : Edge} :
    Answered g (.addEdge e) ↔
      g.frozen = false ∧ g.contains e.source = true ∧ g.contains e.target = true ∧
        e.source ≠ e.target ∧ g.joined e.source e.target = false := by
  rw [answered_iff, attempt, addEdge, joined]
  cases g.frozen <;> cases g.contains e.source <;> cases g.contains e.target <;>
    by_cases hl : e.source = e.target <;> cases g.edge? e.source e.target <;> simp [hl]

theorem after_addEdge (g : ModuleGraph) (e : Edge) :
    g.after (.addEdge e) =
      if g.frozen = false ∧ g.contains e.source = true ∧ g.contains e.target = true ∧
          e.source ≠ e.target ∧ g.joined e.source e.target = false then
        { g with edges := g.edges ++ [e] }
      else g := by
  rw [after_eq, attempt, addEdge, joined]
  cases g.frozen <;> cases g.contains e.source <;> cases g.contains e.target <;>
    by_cases hl : e.source = e.target <;> cases g.edge? e.source e.target <;>
      simp [hl, Except.toOption]

theorem answered_addDiagnostic_iff {d : Diagnostic} :
    Answered g (.addDiagnostic d) ↔ g.frozen = false := by
  rw [answered_iff, attempt, addDiagnostic]
  cases g.frozen <;> simp [Except.map]

theorem after_addDiagnostic (g : ModuleGraph) (d : Diagnostic) :
    g.after (.addDiagnostic d) =
      if g.frozen = false then { g with diagnostics := g.diagnostics ++ [d] } else g := by
  rw [after_eq, attempt, addDiagnostic]
  cases g.frozen <;> simp [Except.map, Except.toOption]

theorem not_answered_freeze : ¬Answered g .freeze := by
  rw [answered_iff]
  rintro ⟨g', h⟩
  cases h

/-- The entry that a call asks for is in the graph. -/
def Holds (g : ModuleGraph) : Call → Prop
  | .addModule m => m ∈ g.modules
  | .addEdge e => e ∈ g.edges
  | .addDiagnostic d => d ∈ g.diagnostics
  | _ => False

/-- **What a call puts into a graph**: its entry, if it is answered with yes, and nothing else. -/
theorem holds_after_iff {entry : Call} (hc : c.staysWith = true) :
    Holds (g.after c) entry ↔ Holds g entry ∨ c = entry ∧ Answered g c := by
  cases c with
  | addModule m =>
    rw [answered_addModule_iff, after_addModule]
    split
    · rename_i h
      cases entry <;> simp [Holds, h, eq_comm (a := m)]
    · rename_i h
      simp [h]
  | addEdge e =>
    rw [answered_addEdge_iff, after_addEdge]
    split
    · rename_i h
      cases entry <;> simp [Holds, h, eq_comm (a := e)]
    · rename_i h
      simp [h]
  | addDiagnostic d =>
    rw [answered_addDiagnostic_iff, after_addDiagnostic]
    split
    · rename_i h
      cases entry <;> simp [Holds, h, eq_comm (a := d)]
    · rename_i h
      simp [h]
  | freeze =>
    rw [iff_false_intro not_answered_freeze, and_false, or_false]
    cases entry <;> exact Iff.rfl
  | without p => cases hc
  | exclude patterns tests => cases hc

theorem frozen_after_iff (hc : c.staysWith = true) :
    (g.after c).frozen = true ↔ g.frozen = true ∨ c = .freeze := by
  cases c with
  | addModule m => rw [after_addModule]; split <;> simp_all
  | addEdge e => rw [after_addEdge]; split <;> simp_all
  | addDiagnostic d => rw [after_addDiagnostic]; split <;> simp_all
  | freeze => exact iff_of_true rfl (.inr rfl)
  | without p => cases hc
  | exclude patterns tests => cases hc

theorem diagnostics_after (hc : c.staysWith = true) :
    (g.after c).diagnostics =
      g.diagnostics ++ if g.frozen then [] else c.diagnostic?.toList := by
  cases c with
  | addModule m => rw [after_addModule]; split <;> simp [Call.diagnostic?]
  | addEdge e => rw [after_addEdge]; split <;> simp [Call.diagnostic?]
  | addDiagnostic d => rw [after_addDiagnostic]; cases g.frozen <;> simp [Call.diagnostic?]
  | freeze =>
    have hnone : (if g.frozen then [] else Call.freeze.diagnostic?.toList) = [] := by
      cases g.frozen <;> rfl
    rw [hnone, List.append_nil]
    rfl
  | without p => cases hc
  | exclude patterns tests => cases hc

/-! ## Runs -/

open Call (Named Counts Creates noted)

/-- A graph is as the calls on an empty one leave it. -/
structure Records (calls : List Call) (g : ModuleGraph) : Prop where
  frozen_iff : g.frozen = true ↔ Call.freeze ∈ calls
  contains_iff : Call.freeze ∉ calls → ∀ path, g.contains path = true ↔ Named calls path
  joined_iff : ∀ source target,
    g.joined source target = true ↔ source ≠ target ∧ Call.Joined calls source target
  holds_iff : ∀ entry, Holds g entry ↔
    ∃ before, before ++ [entry] <+: calls ∧ Creates before entry
  diagnostics : g.diagnostics = noted calls

namespace Records

variable {calls : List Call}

theorem empty (unit : String) : Records [] (empty unit) where
  frozen_iff := by simp [ModuleGraph.empty]
  contains_iff := by simp [ModuleGraph.contains_iff, ModuleGraph.empty, Named]
  joined_iff := by simp [ModuleGraph.joined_iff, ModuleGraph.empty, Call.Joined]
  holds_iff := by
    intro entry
    cases entry <;> simp [Holds, ModuleGraph.empty]
  diagnostics := rfl

theorem isOpen_iff (h : Records calls g) : g.frozen = false ↔ Call.freeze ∉ calls := by
  rw [← h.frozen_iff, Bool.not_eq_true]

/-- **A call is answered with yes exactly if it creates its entry.** -/
theorem answered_iff (h : Records calls g) (hc : c.staysWith = true) :
    Answered g c ↔ Creates calls c := by
  cases c with
  | addModule m =>
    rw [answered_addModule_iff, h.isOpen_iff]
    constructor
    · rintro ⟨ho, hm⟩
      refine .module ho fun hnamed => ?_
      rw [(h.contains_iff ho _).2 hnamed] at hm
      cases hm
    · rintro ⟨ho, hfirst⟩
      rw [← h.contains_iff ho, Bool.not_eq_true] at hfirst
      exact ⟨ho, hfirst⟩
  | addEdge e =>
    rw [answered_addEdge_iff, h.isOpen_iff]
    constructor
    · rintro ⟨ho, hs, ht, hl, hj⟩
      refine .edge ⟨ho, (h.contains_iff ho _).1 hs, (h.contains_iff ho _).1 ht⟩ hl fun hjoined => ?_
      rw [(h.joined_iff _ _).2 ⟨hl, hjoined⟩] at hj
      cases hj
    · intro hcreates
      cases hcreates with
      | edge hcounts hl hfirst =>
        have hj : ¬g.joined e.source e.target = true := fun hj => hfirst ((h.joined_iff _ _).1 hj).2
        exact ⟨hcounts.isOpen, (h.contains_iff hcounts.isOpen _).2 hcounts.source,
          (h.contains_iff hcounts.isOpen _).2 hcounts.target, hl, Bool.eq_false_iff.2 hj⟩
  | addDiagnostic d =>
    rw [answered_addDiagnostic_iff, h.isOpen_iff]
    constructor
    · exact .diagnostic
    · intro hcreates
      cases hcreates with
      | diagnostic ho => exact ho
  | freeze =>
    refine iff_of_false not_answered_freeze ?_
    rintro ⟨⟩
  | without p => cases hc
  | exclude patterns tests => cases hc

/-- **One more call keeps the record.** -/
theorem after (h : Records calls g) (hc : c.staysWith = true) :
    Records (calls ++ [c]) (g.after c) where
  frozen_iff := by
    rw [frozen_after_iff hc, h.frozen_iff, List.mem_append, List.mem_singleton, eq_comm (a := c)]
  contains_iff := by
    intro hopen path
    have ho : Call.freeze ∉ calls := fun hm => hopen (List.mem_append_left _ hm)
    have hmem : ∀ m, m ∈ (g.after c).modules ↔ m ∈ g.modules ∨ c = .addModule m ∧ Answered g c :=
      fun m => show Holds (g.after c) (.addModule m) ↔ _ from holds_after_iff hc
    rw [Call.named_concat_iff, ← h.contains_iff ho, ModuleGraph.contains_iff]
    constructor
    · rintro ⟨m, hm, rfl⟩
      rcases (hmem m).1 hm with hm | ⟨rfl, -⟩
      · exact .inl (ModuleGraph.contains_iff.2 ⟨m, hm, rfl⟩)
      · exact .inr ⟨m, rfl, rfl⟩
    · intro hor
      by_cases hk : g.contains path = true
      · obtain ⟨m, hm, rfl⟩ := ModuleGraph.contains_iff.1 hk
        exact ⟨m, (hmem m).2 (.inl hm), rfl⟩
      · obtain ⟨m, rfl, rfl⟩ := hor.resolve_left hk
        have hnew : Answered g (.addModule m) :=
          answered_addModule_iff.2 ⟨h.isOpen_iff.2 ho, Bool.eq_false_iff.2 hk⟩
        exact ⟨m, (hmem m).2 (.inr ⟨rfl, hnew⟩), rfl⟩
  joined_iff := by
    intro source target
    have hmem : ∀ e, e ∈ (g.after c).edges ↔ e ∈ g.edges ∨ c = .addEdge e ∧ Answered g c :=
      fun e => show Holds (g.after c) (.addEdge e) ↔ _ from holds_after_iff hc
    rw [Call.joined_concat_iff, ModuleGraph.joined_iff]
    constructor
    · rintro ⟨e, he, rfl, rfl⟩
      rcases (hmem e).1 he with he | ⟨rfl, hanswered⟩
      · obtain ⟨hl, hj⟩ := (h.joined_iff _ _).1 (ModuleGraph.joined_iff.2 ⟨e, he, rfl, rfl⟩)
        exact ⟨hl, .inl hj⟩
      · cases (h.answered_iff hc).1 hanswered with
        | edge hcounts hl _ => exact ⟨hl, .inr ⟨⟨e.kind, rfl⟩, hcounts⟩⟩
    · rintro ⟨hl, hor⟩
      by_cases hj : Call.Joined calls source target
      · obtain ⟨e, he, hends⟩ := ModuleGraph.joined_iff.1 ((h.joined_iff _ _).2 ⟨hl, hj⟩)
        exact ⟨e, (hmem e).2 (.inl he), hends⟩
      · obtain ⟨⟨kind, rfl⟩, hcounts⟩ := hor.resolve_left hj
        have hnew : Answered g (.addEdge ⟨source, target, kind⟩) :=
          (h.answered_iff hc).2 (.edge hcounts hl hj)
        exact ⟨_, (hmem _).2 (.inr ⟨rfl, hnew⟩), rfl, rfl⟩
  holds_iff := by
    intro entry
    rw [holds_after_iff hc, h.holds_iff, h.answered_iff hc]
    constructor
    · rintro (⟨before, hmade, hcreates⟩ | ⟨rfl, hcreates⟩)
      · exact ⟨before, hmade.trans (List.prefix_append _ _), hcreates⟩
      · exact ⟨calls, List.prefix_rfl, hcreates⟩
    · rintro ⟨before, hmade, hcreates⟩
      rcases List.prefix_concat_iff.1 hmade with heq | hmade
      · obtain ⟨rfl, rfl⟩ := List.append_singleton_inj.1 heq
        exact .inr ⟨rfl, hcreates⟩
      · exact .inl ⟨before, hmade, hcreates⟩
  diagnostics := by
    rw [diagnostics_after hc, h.diagnostics]
    by_cases hf : Call.freeze ∈ calls
    · rw [Call.noted_concat_of_frozen hf, if_pos (h.frozen_iff.2 hf), List.append_nil]
    · rw [Call.noted_concat_of_open hf, if_neg (mt h.frozen_iff.1 hf)]

theorem run (unit : String) (hcalls : ∀ c ∈ calls, c.staysWith = true) :
    Records calls ((ModuleGraph.empty unit).run calls) := by
  induction calls using List.reverseRecOn with
  | nil => exact .empty unit
  | append_singleton calls c ih =>
    rw [List.forall_mem_append, List.forall_mem_singleton] at hcalls
    rw [run_append]
    exact (ih hcalls.1).after hcalls.2

end Records

/-- **The first call wins**, over whole runs.  The module at a path is that of the first call for
the path.  There is an edge between two different modules exactly if a call for it came after the
calls for its ends, and its kind is that of the first such call.  Diagnostics stay in order.  All
this is about the calls before the first freeze; and a call is answered with yes exactly if it is
the one that created its entry. -/
theorem first_call_wins (unit : String) {calls : List Call}
    (hcalls : ∀ c ∈ calls, c.staysWith = true) :
    (∀ path m, ((empty unit).run calls).module? path = some m ↔
      m.path = path ∧
        ∃ before, before ++ [Call.addModule m] <+: calls ∧ Creates before (.addModule m)) ∧
    (∀ source target, (((empty unit).run calls).edge? source target).isSome = true ↔
      source ≠ target ∧ ∃ before kind,
        before ++ [Call.addEdge ⟨source, target, kind⟩] <+: calls ∧ Counts before source target) ∧
    (∀ source target e, ((empty unit).run calls).edge? source target = some e ↔
      e.source = source ∧ e.target = target ∧
        ∃ before, before ++ [Call.addEdge e] <+: calls ∧ Creates before (.addEdge e)) ∧
    ((empty unit).run calls).diagnostics = noted calls ∧
    (((empty unit).run calls).frozen = true ↔ .freeze ∈ calls) ∧
    ∀ before c, before ++ [c] <+: calls →
      (Answered ((empty unit).run before) c ↔ Creates before c) := by
  have hrecords := Records.run unit hcalls
  have hwf := (WellFormed.empty unit).run calls
  refine ⟨fun path m => ?_, hrecords.joined_iff, fun source target e => ?_, hrecords.diagnostics,
    hrecords.frozen_iff, fun before c hmade => ?_⟩
  · rw [module?_eq_some_iff hwf.nodup_paths, and_comm]
    exact and_congr_right fun _ => hrecords.holds_iff (.addModule m)
  · rw [edge?_eq_some_iff hwf.nodup_ends, and_comm, and_assoc]
    exact and_congr_right fun _ => and_congr_right fun _ => hrecords.holds_iff (.addEdge e)
  · have hmem : ∀ c' ∈ before ++ [c], c'.staysWith = true := fun c' hc' =>
      hcalls c' (hmade.subset hc')
    rw [List.forall_mem_append, List.forall_mem_singleton] at hmem
    exact (Records.run unit hmem.1).answered_iff hmem.2

namespace Sample

/-- The calls up to the first edge that counts: that for the first one comes too early. -/
def early : List Call :=
  [.addEdge ⟨.root, ⟨["a"]⟩, .declares⟩, .addModule ⟨.root, .root, none⟩,
    .addModule ⟨⟨["a"]⟩, .inline, none⟩, .addModule ⟨⟨["a"]⟩, .external, none⟩]

/-- A run in which the kinds of a module and of an edge are given twice. -/
def calls : List Call :=
  early ++ [Call.addEdge ⟨.root, ⟨["a"]⟩, .imports⟩, Call.addEdge ⟨.root, ⟨["a"]⟩, .declares⟩,
    Call.freeze, Call.addEdge ⟨⟨["a"]⟩, .root, .imports⟩]

theorem staysWith_calls : ∀ c ∈ calls, c.staysWith = true := by
  simp [calls, early, Call.staysWith]

theorem counts_early : Counts early .root ⟨["a"]⟩ where
  isOpen := by simp [early]
  source := ⟨⟨.root, .root, none⟩, by simp [early], rfl⟩
  target := ⟨⟨⟨["a"]⟩, .inline, none⟩, by simp [early], rfl⟩

theorem not_joined_early : ¬Call.Joined early .root ⟨["a"]⟩ := by
  have hearly : early = [] ++ [Call.addEdge ⟨.root, ⟨["a"]⟩, .declares⟩] ++
      [Call.addModule ⟨.root, .root, none⟩] ++ [Call.addModule ⟨⟨["a"]⟩, .inline, none⟩] ++
      [Call.addModule ⟨⟨["a"]⟩, .external, none⟩] := rfl
  have hnil : ¬Call.Joined [] .root ⟨["a"]⟩ := by simp [Call.Joined]
  have hcounts : ¬Counts [] .root ⟨["a"]⟩ := fun h => by simpa [Named] using h.source
  simp only [hearly, Call.joined_concat_iff, hnil, hcounts, reduceCtorEq, exists_false, and_false,
    false_and, or_false, not_false_iff]

end Sample

/-- In that run the module `a` stays inline, and the edge to it is an import. -/
theorem second_kind_ignored :
    (∀ c ∈ Sample.calls, c.staysWith = true) ∧
      ((empty "demo").run Sample.calls).module? ⟨["a"]⟩ = some ⟨⟨["a"]⟩, .inline, none⟩ ∧
      ((empty "demo").run Sample.calls).edge? .root ⟨["a"]⟩ = some ⟨.root, ⟨["a"]⟩, .imports⟩ := by
  obtain ⟨hmodule, -, hedge, -⟩ := first_call_wins "demo" Sample.staysWith_calls
  refine ⟨Sample.staysWith_calls, ?_, ?_⟩
  · rw [hmodule]
    refine ⟨rfl, Sample.early.take 2, ⟨_, rfl⟩, ?_⟩
    exact .module (by simp [Sample.early]) (by simp [Sample.early, Named, ModulePath.root])
  · rw [hedge]
    refine ⟨rfl, rfl, Sample.early, ⟨_, rfl⟩, ?_⟩
    exact .edge Sample.counts_early (by simp [ModulePath.root]) Sample.not_joined_early

end ModuleGraph

end CrateAtlas
