import CrateAtlas.Build
import CrateAtlas.Proofs.Growth

/-!
# The declared module tree

Which modules a crate has, said without a queue and without a graph.

* `Pending.FirstOf` — among the declarations of a block, the first one of a name that leads
  somewhere.  Later declarations of the name, and earlier ones that lead nowhere, do not count.
* `Declared` — **the specification**: the modules that are reached from the root by a chain of such
  declarations, each in the block of the module before it.
* `Pending.offspring` and `Pending.walk` — the same as lists: the modules directly below a module,
  and all modules at or below it, depth-first.  `mem_walk` says that the walk visits exactly the
  declared modules, and `nodup_paths_walk` that it meets no path twice.

A module is found by its path alone (`Declared.path`, `Declared.unique`), so whatever is known of a
path is known of the module there.
-/

set_option autoImplicit false

namespace CrateAtlas

/-- **Why a declared module has no place**: neither of the two files is there, or it cannot be found
out whether one of them is. -/
inductive Placement.Lacks (t : FileTree) (scope : Scope) (name : String) : Failure → Prop
  | direct {fault : AccessFault}
    (hdirect : t.obstacle? (scope.directory.join (name ++ ".rs")) = some fault) :
    Lacks t scope name (.blocked fault (scope.directory.join (name ++ ".rs")))
  | nested {fault : AccessFault}
    (hdirect : t.obstacle? (scope.directory.join (name ++ ".rs")) = none)
    (hnone : t.isFile (scope.directory.join (name ++ ".rs")) = false)
    (hnested : t.obstacle? ((scope.directory.join name).join "mod.rs") = some fault) :
    Lacks t scope name (.blocked fault ((scope.directory.join name).join "mod.rs"))
  | missing
    (hdirect : t.obstacle? (scope.directory.join (name ++ ".rs")) = none)
    (hnone : t.isFile (scope.directory.join (name ++ ".rs")) = false)
    (hnested : t.obstacle? ((scope.directory.join name).join "mod.rs") = none)
    (hnone' : t.isFile ((scope.directory.join name).join "mod.rs") = false) :
    Lacks t scope name (.diagnostic (.noModuleFile (scope.path.child name).render
      [scope.directory.join (name ++ ".rs"), (scope.directory.join name).join "mod.rs"]
      (some scope.file)))

theorem Placement.Lacks.ofDeclaration_eq {t : FileTree} {scope : Scope} {name : String}
    {f : Failure} (h : Lacks t scope name f) :
    ofDeclaration t scope name false none = .error f := by
  cases h with
  | direct hdirect => simp [ofDeclaration, FileTree.probe, hdirect]
  | nested hdirect hnone hnested => simp [ofDeclaration, FileTree.probe, hdirect, hnone, hnested]
  | missing hdirect hnone hnested hnone' =>
    simp [ofDeclaration, FileTree.probe, hdirect, hnone, hnested, hnone']

theorem Placement.ofDeclaration_eq_error_iff {t : FileTree} {scope : Scope} {name : String}
    {isInline : Bool} {override : Option String} {f : Failure} :
    ofDeclaration t scope name isInline override = .error f ↔
      isInline = false ∧ override = none ∧ Lacks t scope name f := by
  refine ⟨fun h => ?_, fun ⟨hinline, hplain, h⟩ => by rw [hinline, hplain, h.ofDeclaration_eq]⟩
  unfold ofDeclaration at h
  cases isInline with
  | true => cases h
  | false =>
    cases override with
    | some target => cases h
    | none =>
      refine ⟨rfl, rfl, ?_⟩
      simp only [Bool.false_eq_true, if_false] at h
      split at h
      · rename_i hdirect
        obtain ⟨fault, hfault, rfl⟩ := FileTree.probe_eq_error_iff.1 hdirect
        cases h
        exact .direct hfault
      · cases h
      · rename_i hdirect
        obtain ⟨hclear, hnone⟩ := FileTree.probe_eq_ok_iff.1 hdirect
        split at h
        · rename_i hnested
          obtain ⟨fault, hfault, rfl⟩ := FileTree.probe_eq_error_iff.1 hnested
          cases h
          exact .nested hclear hnone hfault
        · cases h
        · rename_i hnested
          obtain ⟨hclear', hnone'⟩ := FileTree.probe_eq_ok_iff.1 hnested
          cases h
          exact .missing hclear hnone hclear' hnone'

/-- The place of a declared module: below its parent, and inline exactly if it has a body. -/
theorem Placement.ofDeclaration_eq_ok {t : FileTree} {scope : Scope} {name : String}
    {isInline : Bool} {override : Option String} {place : Placement}
    (h : ofDeclaration t scope name isInline override = .ok place) :
    place.path = scope.path.child name ∧
      place.kind = if isInline then .inline else .external := by
  unfold ofDeclaration at h
  cases isInline with
  | true =>
    cases h
    exact ⟨rfl, rfl⟩
  | false =>
    simp only [Bool.false_eq_true, if_false] at h ⊢
    split at h
    · cases h
      exact ⟨rfl, rfl⟩
    · split at h
      · cases h
      · cases h
        exact ⟨rfl, rfl⟩
      · split at h
        · cases h
        · cases h
          exact ⟨rfl, rfl⟩
        · cases h

namespace Build

variable {t : FileTree}

namespace Pending

/-! ## Single declarations -/

theorem path_of_declare {p c : Pending t} {d : Declaration} (h : p.declare d = .ok c) :
    c.place.path = p.place.path.child d.name :=
  (Placement.ofDeclaration_eq_ok (declare_eq_ok h).1).1

theorem kind_of_declare {p c : Pending t} {d : Declaration} (h : p.declare d = .ok c) :
    c.place.kind = if c.body.isSome then .inline else .external := by
  rw [(declare_eq_ok h).2.2.1]
  exact (Placement.ofDeclaration_eq_ok (declare_eq_ok h).1).2

/-- `p.FirstOf name c ds`: among the declarations `ds` of `p`, the first one of `name` that leads
somewhere leads to `c`. -/
inductive FirstOf (p : Pending t) (name : String) (c : Pending t) : List Declaration → Prop
  | here {d : Declaration} {ds : List Declaration} (hn : d.name = name)
      (hd : p.declare d = .ok c) : FirstOf p name c (d :: ds)
  | later {d : Declaration} {ds : List Declaration}
      (hd : d.name = name → ∃ f, p.declare d = .error f) (h : FirstOf p name c ds) :
      FirstOf p name c (d :: ds)

theorem FirstOf.exists_declare {p c : Pending t} {name : String} {ds : List Declaration}
    (h : p.FirstOf name c ds) : ∃ d ∈ ds, d.name = name ∧ p.declare d = .ok c := by
  induction h with
  | here hn hd => exact ⟨_, List.mem_cons_self, hn, hd⟩
  | later _ _ ih =>
    obtain ⟨d, hm, hn, hd⟩ := ih
    exact ⟨d, List.mem_cons_of_mem _ hm, hn, hd⟩

theorem FirstOf.path {p c : Pending t} {name : String} {ds : List Declaration}
    (h : p.FirstOf name c ds) : c.place.path = p.place.path.child name := by
  obtain ⟨d, -, rfl, hd⟩ := h.exists_declare
  exact path_of_declare hd

/-- A name leads to one module at most. -/
theorem FirstOf.unique {p c c' : Pending t} {name : String} {ds : List Declaration}
    (h : p.FirstOf name c ds) (h' : p.FirstOf name c' ds) : c = c' := by
  induction h with
  | here hn hd =>
    cases h' with
    | here _ hd' => exact Except.ok.inj (hd.symm.trans hd')
    | later hskip _ =>
      obtain ⟨f, hf⟩ := hskip hn
      rw [hd] at hf
      cases hf
  | later hskip _ ih =>
    cases h' with
    | here hn hd =>
      obtain ⟨f, hf⟩ := hskip hn
      rw [hd] at hf
      cases hf
    | later _ h' => exact ih h'

/-- A declaration that leads somewhere makes its name lead somewhere. -/
theorem exists_firstOf {p c : Pending t} {d : Declaration} {ds : List Declaration} (hm : d ∈ ds)
    (hd : p.declare d = .ok c) : ∃ c', p.FirstOf d.name c' ds := by
  induction ds with
  | nil => cases hm
  | cons e ds ih =>
    by_cases he : e.name = d.name ∧ ∃ c', p.declare e = .ok c'
    · obtain ⟨hn, c', hc⟩ := he
      exact ⟨c', .here hn hc⟩
    · have hskip : e.name = d.name → ∃ f, p.declare e = .error f := by
        intro hn
        cases hc : p.declare e with
        | error f => exact ⟨f, rfl⟩
        | ok c' => exact absurd ⟨hn, c', hc⟩ he
      rcases List.mem_cons.1 hm with rfl | hm
      · exact absurd ⟨rfl, c, hd⟩ he
      · obtain ⟨c', h⟩ := ih hm
        exact ⟨c', .later hskip h⟩

/-! ## The modules directly below a module -/

/-- The modules that declarations lead to, one for each name that is not among the given ones. -/
def firstOnes (p : Pending t) : List Declaration → List String → List (Pending t)
  | [], _ => []
  | d :: ds, names =>
    match p.declare d with
    | .error _ => p.firstOnes ds names
    | .ok c =>
      if d.name ∈ names then p.firstOnes ds names else c :: p.firstOnes ds (d.name :: names)

theorem firstOnes_of_error {p : Pending t} {d : Declaration} {f : Failure}
    (h : p.declare d = .error f) (ds : List Declaration) (names : List String) :
    p.firstOnes (d :: ds) names = p.firstOnes ds names := by
  rw [firstOnes, h]

theorem firstOnes_of_mem {p c : Pending t} {d : Declaration} {names : List String}
    (h : p.declare d = .ok c) (hn : d.name ∈ names) (ds : List Declaration) :
    p.firstOnes (d :: ds) names = p.firstOnes ds names := by
  rw [firstOnes, h]
  exact if_pos hn

theorem firstOnes_of_not_mem {p c : Pending t} {d : Declaration} {names : List String}
    (h : p.declare d = .ok c) (hn : d.name ∉ names) (ds : List Declaration) :
    p.firstOnes (d :: ds) names = c :: p.firstOnes ds (d.name :: names) := by
  rw [firstOnes, h]
  exact if_neg hn

theorem mem_firstOnes {p c : Pending t} {ds : List Declaration} {names : List String} :
    c ∈ p.firstOnes ds names ↔ ∃ name, name ∉ names ∧ p.FirstOf name c ds := by
  induction ds generalizing names with
  | nil =>
    refine ⟨fun h => by simp [firstOnes] at h, fun ⟨_, _, h⟩ => by cases h⟩
  | cons d ds ih =>
    cases hd : p.declare d with
    | error f =>
      rw [firstOnes_of_error hd, ih]
      refine exists_congr fun name => and_congr_right fun _ => ⟨fun h => ?_, fun h => ?_⟩
      · exact .later (fun _ => ⟨f, hd⟩) h
      · cases h with
        | here _ hd' => cases hd.symm.trans hd'
        | later _ h => exact h
    | ok c₀ =>
      by_cases hn : d.name ∈ names
      · rw [firstOnes_of_mem hd hn, ih]
        refine exists_congr fun name => and_congr_right fun hname => ⟨fun h => ?_, fun h => ?_⟩
        · exact .later (fun he => absurd (he ▸ hn) hname) h
        · cases h with
          | here he _ => exact absurd (he ▸ hn) hname
          | later _ h => exact h
      · rw [firstOnes_of_not_mem hd hn, List.mem_cons, ih]
        constructor
        · rintro (rfl | ⟨name, hname, h⟩)
          · exact ⟨d.name, hn, .here rfl hd⟩
          · rw [List.mem_cons, not_or] at hname
            exact ⟨name, hname.2, .later (fun he => absurd he.symm hname.1) h⟩
        · rintro ⟨name, hname, h⟩
          cases h with
          | here _ hd' => exact .inl (Except.ok.inj (hd'.symm.trans hd))
          | later hskip h =>
            refine .inr ⟨name, ?_, h⟩
            rw [List.mem_cons, not_or]
            refine ⟨fun he => ?_, hname⟩
            obtain ⟨f, hf⟩ := hskip he.symm
            cases hd.symm.trans hf

theorem nodup_paths_firstOnes (p : Pending t) (ds : List Declaration) (names : List String) :
    ((p.firstOnes ds names).map fun c => c.place.path).Nodup := by
  induction ds generalizing names with
  | nil => simp [firstOnes]
  | cons d ds ih =>
    cases hd : p.declare d with
    | error f => simpa only [firstOnes_of_error hd] using ih names
    | ok c =>
      by_cases hn : d.name ∈ names
      · simpa only [firstOnes_of_mem hd hn] using ih names
      · rw [firstOnes_of_not_mem hd hn, List.map_cons, List.nodup_cons]
        refine ⟨fun h => ?_, ih _⟩
        obtain ⟨c', hc', hp⟩ := List.mem_map.1 h
        obtain ⟨name, hname, hf⟩ := mem_firstOnes.1 hc'
        rw [hf.path, path_of_declare hd, ModulePath.child_inj] at hp
        exact hname (by simp [hp.2])

/-- The modules directly below a module, in the order of their declarations. -/
def offspring (parse : Source.Parser) (p : Pending t) : List (Pending t) :=
  match p.items parse with
  | .error _ => []
  | .ok block => p.firstOnes block.declarations []

theorem offspring_of_error {parse : Source.Parser} {p : Pending t} {fault : Diagnostic}
    (h : p.items parse = .error fault) : p.offspring parse = [] := by
  rw [offspring, h]

theorem offspring_of_ok {parse : Source.Parser} {p : Pending t} {block : Block}
    (h : p.items parse = .ok block) :
    p.offspring parse = p.firstOnes block.declarations [] := by
  rw [offspring, h]

theorem mem_offspring {parse : Source.Parser} {p c : Pending t} :
    c ∈ p.offspring parse ↔
      ∃ block name, p.items parse = .ok block ∧ p.FirstOf name c block.declarations := by
  cases h : p.items parse with
  | error fault => simp [offspring_of_error h]
  | ok block => simp [offspring_of_ok h, mem_firstOnes]

theorem path_of_mem_offspring {parse : Source.Parser} {p c : Pending t}
    (h : c ∈ p.offspring parse) : ∃ name, c.place.path = p.place.path.child name := by
  obtain ⟨_, name, -, hf⟩ := mem_offspring.1 h
  exact ⟨name, hf.path⟩

theorem nodup_paths_offspring (parse : Source.Parser) (p : Pending t) :
    ((p.offspring parse).map fun c => c.place.path).Nodup := by
  cases h : p.items parse with
  | error fault => simp [offspring_of_error h]
  | ok block => simpa only [offspring_of_ok h] using p.nodup_paths_firstOnes block.declarations []

theorem rank_lt_of_mem_offspring {parse : Source.Parser} {p c : Pending t}
    (h : c ∈ p.offspring parse) : Prod.Lex (· < ·) (· < ·) c.rank p.rank := by
  obtain ⟨block, name, hi, hf⟩ := mem_offspring.1 h
  obtain ⟨d, hm, -, hd⟩ := hf.exists_declare
  exact rank_lt hi hm hd

/-! ## All modules at or below a module -/

/-- The modules at or below a module, depth-first. -/
def walk (parse : Source.Parser) (p : Pending t) : List (Pending t) :=
  p :: (p.offspring parse).attach.flatMap fun ⟨c, _⟩ => walk parse c
termination_by p.rank
decreasing_by exact rank_lt_of_mem_offspring (by assumption)

theorem walk_eq (parse : Source.Parser) (p : Pending t) :
    p.walk parse = p :: (p.offspring parse).flatMap (walk parse) := by
  rw [walk]
  simp

end Pending

/-! ## The specification -/

/-- **The declared module tree.**  `Declared parse root segments p` says that the path `segments`
leads from `root` to `p`: the block of each module on the way was obtained, and the next segment is
the name of a declaration in it that leads to the next module, the first such declaration of that
name. -/
inductive Declared (parse : Source.Parser) (root : Pending t) : List String → Pending t → Prop
  | root : Declared parse root [] root
  | child {segments : List String} {name : String} {p c : Pending t} {block : Block}
      (h : Declared parse root segments p) (hi : p.items parse = .ok block)
      (hf : p.FirstOf name c block.declarations) : Declared parse root (segments ++ [name]) c

namespace Declared

variable {parse : Source.Parser} {r p q : Pending t} {segments : List String}

theorem path (h : Declared parse r segments p) :
    p.place.path = ⟨r.place.path.segments ++ segments⟩ := by
  induction h with
  | root => simp
  | child _ _ hf ih => rw [hf.path, ih, ModulePath.child, List.append_assoc]

/-- A path leads to one module at most. -/
theorem unique (h : Declared parse r segments p) (h' : Declared parse r segments q) : p = q := by
  induction h generalizing q with
  | root =>
    generalize hs : [] = segments at h'
    cases h' with
    | root => rfl
    | child => simp at hs
  | @child segments name p c block _ hi hf ih =>
    generalize hs : segments ++ [name] = segments' at h'
    cases h' with
    | root => simp at hs
    | child h' hi' hf' =>
      obtain ⟨rfl, hn⟩ := List.append_inj' hs rfl
      obtain rfl : name = _ := by simpa using hn
      obtain rfl := ih h'
      obtain rfl := Except.ok.inj (hi.symm.trans hi')
      exact hf.unique hf'

/-- A chain may also be built from its first step on. -/
theorem cons {name : String} {c : Pending t} {block : Block} (hi : r.items parse = .ok block)
    (hf : r.FirstOf name c block.declarations) (h : Declared parse c segments p) :
    Declared parse r (name :: segments) p := by
  induction h with
  | root => exact .child .root hi hf
  | child _ hi' hf' ih => exact .child ih hi' hf'

end Declared

namespace Pending

variable {parse : Source.Parser}

/-- The walk is closed: with a module it visits everything directly below. -/
theorem mem_walk_of_mem_offspring {p q c : Pending t} (hq : q ∈ p.walk parse)
    (hc : c ∈ q.offspring parse) : c ∈ p.walk parse := by
  induction p using walk.induct parse with
  | case1 p ih =>
    rw [walk_eq, List.mem_cons, List.mem_flatMap] at hq ⊢
    right
    rcases hq with rfl | ⟨b, hb, hq⟩
    · exact ⟨c, hc, by rw [walk_eq]; exact List.mem_cons_self⟩
    · exact ⟨b, hb, ih b hb hq⟩

/-- **The walk visits exactly the declared modules.** -/
theorem mem_walk {p q : Pending t} :
    q ∈ p.walk parse ↔ ∃ segments, Declared parse p segments q := by
  constructor
  · intro h
    induction p using walk.induct parse with
    | case1 p ih =>
      rw [walk_eq, List.mem_cons, List.mem_flatMap] at h
      rcases h with rfl | ⟨c, hc, h⟩
      · exact ⟨[], .root⟩
      · obtain ⟨segments, hs⟩ := ih c hc h
        obtain ⟨block, name, hi, hf⟩ := mem_offspring.1 hc
        exact ⟨name :: segments, hs.cons hi hf⟩
  · rintro ⟨segments, h⟩
    induction h with
    | root =>
      rw [walk_eq]
      exact List.mem_cons_self
    | child _ hi hf ih => exact mem_walk_of_mem_offspring ih (mem_offspring.2 ⟨_, _, hi, hf⟩)

/-- The paths of a walk start with the path of the module it starts from. -/
theorem path_of_mem_walk {p q : Pending t} (h : q ∈ p.walk parse) :
    ∃ segments, q.place.path = ⟨p.place.path.segments ++ segments⟩ := by
  obtain ⟨segments, hs⟩ := mem_walk.1 h
  exact ⟨segments, hs.path⟩

/-- Below different modules of one block, the walk meets different paths. -/
theorem path_ne_of_mem_walk {p c c' q q' : Pending t} (hc : c ∈ p.offspring parse)
    (hc' : c' ∈ p.offspring parse) (hne : c.place.path ≠ c'.place.path)
    (hq : q ∈ c.walk parse) (hq' : q' ∈ c'.walk parse) : q.place.path ≠ q'.place.path := by
  intro heq
  obtain ⟨m, hm⟩ := path_of_mem_offspring hc
  obtain ⟨n, hn⟩ := path_of_mem_offspring hc'
  obtain ⟨s, hs⟩ := path_of_mem_walk hq
  obtain ⟨s', hs'⟩ := path_of_mem_walk hq'
  rw [hs, hs', hm, hn] at heq
  simp only [ModulePath.child, ModulePath.mk.injEq, List.append_assoc, List.append_cancel_left_eq,
    List.cons_append, List.nil_append, List.cons.injEq] at heq
  exact hne (by rw [hm, hn, heq.1])

/-- **The walk meets no path twice.** -/
theorem nodup_paths_walk (p : Pending t) :
    ((p.walk parse).map fun q => q.place.path).Nodup := by
  induction p using walk.induct parse with
  | case1 p ih =>
    rw [walk_eq, List.map_cons, List.nodup_cons, List.map_flatMap, List.nodup_flatMap]
    refine ⟨fun h => ?_, ih, ?_⟩
    · obtain ⟨c, hc, h⟩ := List.mem_flatMap.1 h
      obtain ⟨q, hq, hp⟩ := List.mem_map.1 h
      obtain ⟨name, hname⟩ := path_of_mem_offspring hc
      obtain ⟨segments, hs⟩ := path_of_mem_walk hq
      have hl := congrArg (fun path => path.segments.length) (hp.symm.trans hs)
      simp [hname, ModulePath.child] at hl
    · have hn := p.nodup_paths_offspring parse
      rw [List.Nodup, List.pairwise_map] at hn
      refine hn.imp_of_mem fun hc hc' hne => ?_
      intro path hx hx'
      obtain ⟨q, hq, rfl⟩ := List.mem_map.1 hx
      obtain ⟨q', hq', heq⟩ := List.mem_map.1 hx'
      exact path_ne_of_mem_walk hc hc' hne hq hq' heq.symm

end Pending

end Build

end CrateAtlas
