import CrateAtlas.Proofs.BuiltGraph

/-!
# Breadth-first and depth-first

The discovery visits the modules of a crate in the order of a queue.  The plain way to find them
would be a recursion: `Pending.descend` goes through the declarations of a module, adds each module
that is new, and goes down into it before it looks at the next declaration.

The recursion meets the names of a block in the same order as the queue does, and nothing below a
new module can have been met before (`Pending.Untouched`).  So it finds the depth-first walk of the
declared tree (`Pending.descend_eq`), and both ways find the same modules:
`graph_modules_declared` says so, together with what these modules are and when there is a graph at
all.
-/

set_option autoImplicit false

namespace CrateAtlas.Build

variable {t : FileTree} {parse : Source.Parser}

namespace Pending

/-- The modules found so far, with those that a plain recursion finds below a module. -/
def descend (parse : Source.Parser) (p : Pending t) (found : List Module) : List Module :=
  match _h : p.items parse with
  | .error _ => found
  | .ok block =>
    block.declarations.attach.foldl (fun found ⟨d, _⟩ =>
      match _hd : p.declare d with
      | .error _ => found
      | .ok c =>
        if found.any fun m => m.path = c.place.path then found
        else descend parse c (found ++ [c.toModule])) found
termination_by p.rank
decreasing_by exact rank_lt _h (by assumption) _hd

/-- What a plain recursion finds at or below a declaration. -/
def descendInto (parse : Source.Parser) (p : Pending t) (found : List Module) (d : Declaration) :
    List Module :=
  match p.declare d with
  | .error _ => found
  | .ok c =>
    if found.any fun m => m.path = c.place.path then found
    else c.descend parse (found ++ [c.toModule])

theorem descend_of_error {p : Pending t} {fault : Diagnostic} (h : p.items parse = .error fault)
    (found : List Module) : p.descend parse found = found := by
  rw [descend]
  split
  · rfl
  · rename_i h'
    cases h.symm.trans h'

theorem descend_of_ok {p : Pending t} {block : Block} (h : p.items parse = .ok block)
    (found : List Module) :
    p.descend parse found = block.declarations.foldl (p.descendInto parse) found := by
  rw [descend]
  split
  · rename_i h'
    cases h.symm.trans h'
  · rename_i block' h'
    obtain rfl := Except.ok.inj (h.symm.trans h')
    rw [List.foldl_subtype (g := p.descendInto parse), List.unattach_attach]
    intro found d hd
    simp only [descendInto]
    split <;> simp_all

/-- Of everything strictly below `p`, the modules found lie at or below those children whose names
are given, and these children are found. -/
structure Untouched (p : Pending t) (names : List String) (found : List Module) : Prop where
  below : ∀ m ∈ found, ∀ name rest, m.path.segments = p.place.path.segments ++ name :: rest →
    name ∈ names
  children : ∀ name ∈ names, ∃ m ∈ found, m.path = p.place.path.child name

namespace Untouched

variable {p c : Pending t} {names : List String} {found : List Module} {d : Declaration}

theorem any_eq_true_iff (h : p.Untouched names found) (hd : p.declare d = .ok c) :
    (found.any fun m => m.path = c.place.path) = true ↔ d.name ∈ names := by
  rw [List.any_eq_true, path_of_declare hd]
  constructor
  · rintro ⟨m, hm, hp⟩
    exact h.below m hm d.name [] (congrArg ModulePath.segments (of_decide_eq_true hp))
  · intro hn
    obtain ⟨m, hm, hp⟩ := h.children d.name hn
    exact ⟨m, hm, decide_eq_true hp⟩

/-- Below a module that has just been found nothing has been met. -/
theorem enter (h : p.Untouched names found) (hd : p.declare d = .ok c) (hn : d.name ∉ names) :
    c.Untouched [] (found ++ [c.toModule]) := by
  have hc : c.place.path.segments = p.place.path.segments ++ [d.name] :=
    congrArg ModulePath.segments (path_of_declare hd)
  refine ⟨fun m hm name rest hs => ?_, by simp⟩
  rcases List.mem_append.1 hm with hm | hm
  · rw [hc, List.append_assoc] at hs
    exact absurd (h.below m hm d.name (name :: rest) hs) hn
  · obtain rfl := List.mem_singleton.1 hm
    have hl := congrArg List.length hs
    simp at hl

/-- When everything below a new module has been found, its name is one of those that are done. -/
theorem leave (h : p.Untouched names found) (hd : p.declare d = .ok c) :
    p.Untouched (d.name :: names) (found ++ (c.walk parse).map toModule) := by
  have hc : c.place.path.segments = p.place.path.segments ++ [d.name] :=
    congrArg ModulePath.segments (path_of_declare hd)
  constructor
  · intro m hm name rest hs
    rcases List.mem_append.1 hm with hm | hm
    · exact List.mem_cons_of_mem _ (h.below m hm name rest hs)
    · obtain ⟨q, hq, rfl⟩ := List.mem_map.1 hm
      obtain ⟨segments, hp⟩ := path_of_mem_walk hq
      rw [path_toModule, hp, hc, List.append_assoc, List.append_cancel_left_eq] at hs
      rw [← (List.cons.inj hs).1]
      exact List.mem_cons_self
  · intro name hname
    rcases List.mem_cons.1 hname with rfl | hname
    · refine ⟨c.toModule, List.mem_append_right _ (List.mem_map_of_mem ?_), path_of_declare hd⟩
      rw [walk_eq]
      exact List.mem_cons_self
    · obtain ⟨m, hm, hp⟩ := h.children name hname
      exact ⟨m, List.mem_append_left _ hm, hp⟩

end Untouched

/-- The declarations of one module, if below each of its new children the recursion finds the
walk. -/
theorem foldl_descendInto {p : Pending t} {ds : List Declaration} {names : List String}
    {found : List Module} (h : p.Untouched names found)
    (ih : ∀ c ∈ p.firstOnes ds names, ∀ found, c.Untouched [] found →
      c.descend parse found = found ++ (c.walk parse).tail.map toModule) :
    ds.foldl (p.descendInto parse) found
      = found ++ ((p.firstOnes ds names).flatMap (walk parse)).map toModule := by
  induction ds generalizing names found with
  | nil => simp [firstOnes]
  | cons d ds ihs =>
    rw [List.foldl_cons]
    cases hd : p.declare d with
    | error f =>
      have hinto : p.descendInto parse found d = found := by rw [descendInto, hd]
      rw [firstOnes_of_error hd] at ih ⊢
      rw [hinto, ihs h ih]
    | ok c =>
      by_cases hn : d.name ∈ names
      · have hinto : p.descendInto parse found d = found := by
          rw [descendInto, hd]
          exact if_pos ((h.any_eq_true_iff hd).2 hn)
        rw [firstOnes_of_mem hd hn] at ih ⊢
        rw [hinto, ihs h ih]
      · -- Everything below `c` is found before the next declaration is looked at.
        rw [firstOnes_of_not_mem hd hn] at ih ⊢
        have hinto : p.descendInto parse found d = found ++ (c.walk parse).map toModule := by
          rw [descendInto, hd]
          refine (if_neg fun ha => hn ((h.any_eq_true_iff hd).1 ha)).trans ?_
          rw [ih c List.mem_cons_self _ (h.enter hd hn), walk_eq]
          simp
        rw [hinto, ihs (h.leave hd) fun c hc => ih c (List.mem_cons_of_mem _ hc),
          List.flatMap_cons, List.map_append, List.append_assoc]

/-- **A plain recursion finds the depth-first walk.** -/
theorem descend_eq {p : Pending t} {found : List Module} (h : p.Untouched [] found) :
    p.descend parse found = found ++ (p.walk parse).tail.map toModule := by
  induction p using walk.induct parse generalizing found with
  | case1 p ih =>
    rw [walk_eq, List.tail_cons]
    cases hi : p.items parse with
    | error fault => simp [descend_of_error hi, offspring_of_error hi]
    | ok block =>
      rw [offspring_of_ok hi] at ih ⊢
      rw [descend_of_ok hi, foldl_descendInto h fun c hc found hf => ih c hc hf]

end Pending

/-- The modules of a graph are those that a plain recursion finds. -/
theorem Built.modules_perm {file : Path} {g : ModuleGraph} (h : Built parse (rootOf t file) g) :
    g.modules.Perm ((rootOf t file).descend parse [(rootOf t file).toModule]) := by
  have hroot : (rootOf t file).Untouched [] [(rootOf t file).toModule] := by
    refine ⟨fun m hm name rest hs => ?_, by simp⟩
    obtain rfl := List.mem_singleton.1 hm
    simp at hs
  have hperm := (order_perm parse [rootOf t file]).map Pending.toModule
  rw [h.modules, Pending.descend_eq hroot]
  rw [List.flatMap_singleton, Pending.walk_eq, List.map_cons] at hperm
  rwa [Pending.walk_eq, List.tail_cons, List.singleton_append]

/-- **The modules of a crate.**  If the root can be read, the building fails only if it runs into
something, and then with one of the failures that it runs into.  Otherwise there is a graph.  A path
is that of a module exactly if it is declared, segment by segment; kind and file of the module are
those of the first declaration that leads somewhere, and so is the block whose use trees are noted.
For there to be a module, it does not matter which declaration of the name leads somewhere.  A plain
recursion finds the same modules. -/
theorem graph_modules_declared {parse : Source.Parser} {t : FileTree} {file : Path}
    {text : String} (hread : Source.readText t (t.resolve file) = .ok text) (unit : String) :
    (Obstructed parse t file →
      ∃ f, Meets parse t file f ∧ (graph parse t unit file).result = .error f) ∧
    (¬Obstructed parse t file → ∃ g, (graph parse t unit file).result = .ok g ∧
      (∀ path m, g.module? path = some m ↔
        ∃ p, Declared parse (rootOf t file) path.segments p ∧ p.toModule = m) ∧
      (∀ (path : ModulePath) (name : String), g.contains (path.child name) = true ↔
        ∃ p block d c, Declared parse (rootOf t file) path.segments p ∧
          p.items parse = .ok block ∧ d ∈ block.declarations ∧ d.name = name ∧
          p.declare d = .ok c) ∧
      (∃ s, (discover parse [rootOf t file]
          ⟨{ ModuleGraph.empty unit with modules := [(rootOf t file).toModule] }, []⟩).result
            = .ok s ∧
        (finish s).result = .ok g ∧
        ∀ path trees, (path, trees) ∈ s.uses ↔
          ∃ block, Scanned parse (rootOf t file) path block ∧ block.uses = trees) ∧
      g.modules.Perm ((rootOf t file).descend parse [(rootOf t file).toModule])) := by
  refine ⟨exists_graph_eq_error unit, fun hfree => ?_⟩
  rcases graph_cases parse t unit file with ⟨f, hf, -⟩ | ⟨reason, hlost, -⟩ | ⟨g, hg⟩
  · exact absurd ⟨f, hf⟩ hfree
  · cases hread.symm.trans hlost
  · have hb := built_of_graph hg
    obtain ⟨-, hfatal, hfinish⟩ := graph_eq_ok hg
    have hd := discover_eq parse unit (tidy_root t (t.resolve file))
    rw [hfatal] at hd
    exact ⟨g, hg, fun path m => hb.module?_eq_some_iff, fun path name => hb.contains_child_iff,
      ⟨_, hd, hfinish, fun path trees => mem_uses⟩, hb.modules_perm⟩

/-- In `mod a { use super::*; }` the inner module is found. -/
theorem exists_inner_module :
    Source.readText (Sample.tree Sample.globSource)
        ((Sample.tree Sample.globSource).resolve Sample.rootFile) = .ok Sample.globSource ∧
      ∃ g, (graph (Sample.parser Sample.globSource Sample.globRoot)
          (Sample.tree Sample.globSource) "demo" Sample.rootFile).result = .ok g ∧
        g.module? ⟨["a"]⟩ = some ⟨⟨["a"]⟩, .inline, none⟩ := by
  have hread : Source.readText (Sample.tree Sample.globSource)
      ((Sample.tree Sample.globSource).resolve Sample.rootFile) = .ok Sample.globSource := by cbv
  refine ⟨hread, ?_⟩
  obtain ⟨_, hbuilt, -⟩ := Sample.exists_built_globRoot
  obtain ⟨g, hg, hmodules, -⟩ :=
    (graph_modules_declared hread "demo").2 (not_obstructed_of_graph hbuilt)
  exact ⟨g, hg, (hmodules ⟨["a"]⟩ _).2 ⟨_, Sample.declared_inner, rfl⟩⟩

/-- A module is declared, in a root that can be read, by a declaration that has a place for it and
is not circular; and yet it is not found. -/
theorem declared_module_not_found :
    Source.readText (Sample.tree Sample.nullSource)
        ((Sample.tree Sample.nullSource).resolve Sample.rootFile) = .ok Sample.nullSource ∧
    (rootOf (Sample.tree Sample.nullSource) Sample.rootFile).items
        (Sample.parser Sample.nullSource Sample.nullRoot)
      = .ok (.mk [.mk "a" (some "\x00") none] []) ∧
    (∃ place,
      Placement.ofDeclaration (Sample.tree Sample.nullSource)
          (rootOf (Sample.tree Sample.nullSource) Sample.rootFile).scope "a" false (some "\x00")
        = .ok place ∧
      (Sample.tree Sample.nullSource).target place.file
        ∉ (rootOf (Sample.tree Sample.nullSource) Sample.rootFile).chain) ∧
    ∀ g, (graph (Sample.parser Sample.nullSource Sample.nullRoot) (Sample.tree Sample.nullSource)
      "demo" Sample.rootFile).result ≠ .ok g := by
  have hread : Source.readText (Sample.tree Sample.nullSource)
      ((Sample.tree Sample.nullSource).resolve Sample.rootFile) = .ok Sample.nullSource := by cbv
  have hplace : (Sample.tree Sample.nullSource).target ⟨.top, ["\x00"]⟩ = ["\x00"] := by cbv
  have hchain : (rootOf (Sample.tree Sample.nullSource) Sample.rootFile).chain = [["lib.rs"]] := by
    cbv
  refine ⟨hread, Sample.items_nullRoot hread,
    ⟨⟨⟨["a"]⟩, ⟨.top, ["\x00"]⟩, .external, ⟨.top, []⟩⟩, by cbv, ?_⟩, fun g hg => ?_⟩
  · rw [hplace, hchain]
    decide
  · cases hg.symm.trans Sample.graph_nullRoot

end CrateAtlas.Build
