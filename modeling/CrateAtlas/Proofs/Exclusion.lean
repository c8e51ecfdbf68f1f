import Mathlib.Data.List.Induction
import CrateAtlas.Proofs.Growth

/-!
# Leaving modules out

What is left of a graph, whatever its modules and edges are.  A path is *cut off* if it lies at or
below a module that is to go (`isCut`).  `without` keeps the modules and edges that have nothing to
do with such a path (`mem_modules_without`, `mem_edges_without`), in their order.

Leaving modules out twice is leaving out both kinds at once (`without_without`).  The second pass
does not see the modules that the first one took away, and so does not look below them; but **what
lies below them has gone with them**, since lying below is transitive (`isCut_without`).  Exclusions
by patterns inherit that.  An exclusion of nothing hands back the graph as it is, frozen or not,
which fits in as the neutral one.
-/

set_option autoImplicit false

namespace CrateAtlas

namespace ModulePath

variable {p q r : ModulePath}

theorem isWithin_iff : p.isWithin q = true ↔ q.segments <+: p.segments :=
  List.isPrefixOf_iff_prefix

theorem isWithin_trans (h : p.isWithin q = true) (h' : q.isWithin r = true) :
    p.isWithin r = true :=
  isWithin_iff.2 ((isWithin_iff.1 h').trans (isWithin_iff.1 h))

/-- What passes from modules to their parents passes to everything above them. -/
theorem of_isWithin {P : ModulePath → Prop}
    (up : ∀ path parent, P path → path.parent? = some parent → P parent) (hp : P p)
    (hw : p.isWithin q = true) : P q := by
  obtain ⟨rest, hrest⟩ := isWithin_iff.1 hw
  -- One step up the tree for each segment between the two, from the innermost one on.
  induction rest using List.reverseRecOn generalizing p with
  | nil =>
    obtain rfl : q = p := congrArg ModulePath.mk (by simpa using hrest)
    exact hp
  | append_singleton rest name ih =>
    have hchild : p = (⟨q.segments ++ rest⟩ : ModulePath).child name :=
      congrArg ModulePath.mk (by rw [← hrest, List.append_assoc])
    have hparent : p.parent? = some ⟨q.segments ++ rest⟩ := by
      rw [hchild, parent?_child]
    exact ih (up _ _ hp hparent) (isWithin_iff.2 (List.prefix_append _ _)) rfl

end ModulePath

namespace ModuleGraph

variable {g : ModuleGraph} {p q : ModulePath → Bool}

theorem mem_paths {path : ModulePath} : path ∈ g.paths ↔ g.contains path = true := by
  rw [paths, List.mem_map, contains_iff]

/-! ## What is cut off -/

/-- Whether a path lies at or below a module that a predicate picks.  The root is never picked. -/
def isCut (g : ModuleGraph) (p : ModulePath → Bool) (path : ModulePath) : Bool :=
  (g.paths.filter fun top => !top.isRoot && p top).any path.isWithin

theorem isCut_iff {path : ModulePath} :
    g.isCut p path = true ↔
      ∃ top, g.contains top = true ∧ top ≠ .root ∧ p top = true ∧ path.isWithin top = true := by
  simp only [isCut, List.any_eq_true, List.mem_filter, mem_paths, Bool.and_eq_true,
    Bool.not_eq_true', Bool.eq_false_iff, Ne, ModulePath.isRoot_iff, and_assoc]

/-- What lies above something that stays, stays: what is cut off takes everything below along. -/
theorem isCut_eq_false_of_isWithin {path above : ModulePath} (h : g.isCut p path = false)
    (hw : path.isWithin above = true) : g.isCut p above = false := by
  rw [Bool.eq_false_iff] at h ⊢
  intro hcut
  obtain ⟨top, hc, hr, hp, hw'⟩ := isCut_iff.1 hcut
  exact h (isCut_iff.2 ⟨top, hc, hr, hp, ModulePath.isWithin_trans hw hw'⟩)

theorem isCut_root (g : ModuleGraph) (p : ModulePath → Bool) : g.isCut p .root = false := by
  rw [Bool.eq_false_iff, Ne, isCut_iff]
  rintro ⟨top, -, hr, -, hw⟩
  have hs : top.segments = [] := List.prefix_nil.1 (ModulePath.isWithin_iff.1 hw)
  exact hr (congrArg ModulePath.mk hs)

theorem isCut_or (g : ModuleGraph) (p q : ModulePath → Bool) (path : ModulePath) :
    g.isCut (fun top => p top || q top) path = (g.isCut p path || g.isCut q path) := by
  rw [Bool.eq_iff_iff, Bool.or_eq_true]
  simp only [isCut_iff, Bool.or_eq_true]
  constructor
  · rintro ⟨top, hc, hr, hp | hq, hw⟩
    · exact .inl ⟨top, hc, hr, hp, hw⟩
    · exact .inr ⟨top, hc, hr, hq, hw⟩
  · rintro (⟨top, hc, hr, hp, hw⟩ | ⟨top, hc, hr, hq, hw⟩)
    · exact ⟨top, hc, hr, .inl hp, hw⟩
    · exact ⟨top, hc, hr, .inr hq, hw⟩

/-! ## What is left -/

/-- The graph that is left, by what is cut off. -/
theorem without_eq (g : ModuleGraph) (p : ModulePath → Bool) :
    g.without p =
      { g with
        modules := g.modules.filter fun m => !g.isCut p m.path
        edges := g.edges.filter fun e => !g.isCut p e.source && !g.isCut p e.target
        frozen := true } := rfl

theorem mem_modules_without {m : Module} :
    m ∈ (g.without p).modules ↔ m ∈ g.modules ∧ g.isCut p m.path = false := by
  simp [without_eq]

theorem mem_edges_without {e : Edge} :
    e ∈ (g.without p).edges ↔
      e ∈ g.edges ∧ g.isCut p e.source = false ∧ g.isCut p e.target = false := by
  simp [without_eq]

theorem contains_without_iff {path : ModulePath} :
    (g.without p).contains path = true ↔ g.contains path = true ∧ g.isCut p path = false := by
  simp only [contains_iff, mem_modules_without]
  constructor
  · rintro ⟨m, ⟨hm, hc⟩, rfl⟩
    exact ⟨⟨m, hm, rfl⟩, hc⟩
  · rintro ⟨⟨m, hm, rfl⟩, hc⟩
    exact ⟨m, ⟨hm, hc⟩, rfl⟩

/-! ## Leaving out twice -/

/-- **What is left is cut off as it was before.**  A module that the second pass misses was cut off
by the first one, and then so was everything below it. -/
theorem isCut_without {path : ModulePath} (h : g.isCut p path = false) :
    (g.without p).isCut q path = g.isCut q path := by
  rw [Bool.eq_iff_iff, isCut_iff, isCut_iff]
  constructor
  · rintro ⟨top, hc, hr, hq, hw⟩
    exact ⟨top, (contains_without_iff.1 hc).1, hr, hq, hw⟩
  · rintro ⟨top, hc, hr, hq, hw⟩
    have hstays : g.isCut p top = false := isCut_eq_false_of_isWithin h hw
    exact ⟨top, contains_without_iff.2 ⟨hc, hstays⟩, hr, hq, hw⟩

/-- **Leaving out twice** is leaving out both at once. -/
theorem without_without (g : ModuleGraph) (p q : ModulePath → Bool) :
    (g.without p).without q = g.without fun path => p path || q path := by
  have hmodules : (g.modules.filter fun m => !g.isCut p m.path).filter
        (fun m => !(g.without p).isCut q m.path)
      = g.modules.filter fun m => !g.isCut (fun path => p path || q path) m.path := by
    rw [List.filter_filter]
    refine List.filter_congr fun m _ => ?_
    rw [isCut_or]
    cases hp : g.isCut p m.path with
    | true => simp
    | false => simp [isCut_without hp]
  have hedges : (g.edges.filter fun e => !g.isCut p e.source && !g.isCut p e.target).filter
        (fun e => !(g.without p).isCut q e.source && !(g.without p).isCut q e.target)
      = g.edges.filter fun e => !g.isCut (fun path => p path || q path) e.source &&
          !g.isCut (fun path => p path || q path) e.target := by
    rw [List.filter_filter]
    refine List.filter_congr fun e _ => ?_
    rw [isCut_or, isCut_or]
    cases hs : g.isCut p e.source with
    | true => simp
    | false =>
      cases ht : g.isCut p e.target with
      | true => simp
      | false => simp [isCut_without hs, isCut_without ht]
  rw [without_eq (g.without p) q, without_eq g fun path => p path || q path, ← hmodules, ← hedges]
  rfl

theorem without_self (g : ModuleGraph) (p : ModulePath → Bool) :
    (g.without p).without p = g.without p := by
  rw [without_without]
  simp only [Bool.or_self]

theorem without_comm (g : ModuleGraph) (p q : ModulePath → Bool) :
    (g.without p).without q = (g.without q).without p := by
  rw [without_without, without_without]
  simp only [Bool.or_comm]

/-! ## Patterns -/

variable {patterns patterns' : List String} {tests tests' : Bool}

theorem isExcluded_iff {path : ModulePath} :
    isExcluded patterns tests path = true ↔
      (∃ pattern ∈ patterns, Text.wildcard pattern path.render = true) ∨
        tests = true ∧ path.isTests = true := by
  simp [isExcluded, matchesAny, or_comm]

theorem isExcluded_eq_false_iff {path : ModulePath} :
    isExcluded patterns tests path = false ↔
      (∀ pattern ∈ patterns, Text.wildcard pattern path.render = false) ∧
        (tests = true → path.segments.getLast? ≠ some "tests") := by
  rw [Bool.eq_false_iff, Ne, isExcluded_iff, not_or]
  simp [ModulePath.isTests]

theorem isExcluded_append (path : ModulePath) :
    isExcluded (patterns ++ patterns') (tests || tests') path
      = (isExcluded patterns tests path || isExcluded patterns' tests' path) := by
  rw [Bool.eq_iff_iff, Bool.or_eq_true]
  simp only [isExcluded_iff, List.mem_append, Bool.or_eq_true]
  constructor
  · rintro (⟨pattern, hm | hm, hw⟩ | ⟨ht | ht, hp⟩)
    · exact .inl (.inl ⟨pattern, hm, hw⟩)
    · exact .inr (.inl ⟨pattern, hm, hw⟩)
    · exact .inl (.inr ⟨ht, hp⟩)
    · exact .inr (.inr ⟨ht, hp⟩)
  · rintro ((⟨pattern, hm, hw⟩ | ⟨ht, hp⟩) | ⟨pattern, hm, hw⟩ | ⟨ht, hp⟩)
    · exact .inl ⟨pattern, .inl hm, hw⟩
    · exact .inr ⟨.inl ht, hp⟩
    · exact .inl ⟨pattern, .inr hm, hw⟩
    · exact .inr ⟨.inr ht, hp⟩

theorem excludesNothing_iff :
    excludesNothing patterns tests = true ↔ patterns = [] ∧ tests = false := by
  simp [excludesNothing]

theorem excludesNothing_append :
    excludesNothing (patterns ++ patterns') (tests || tests')
      = (excludesNothing patterns tests && excludesNothing patterns' tests') := by
  rw [Bool.eq_iff_iff, Bool.and_eq_true]
  simp only [excludesNothing_iff, List.append_eq_nil_iff, Bool.or_eq_false_iff]
  exact and_and_and_comm

theorem exclude_nothing (g : ModuleGraph) : g.exclude [] false = g := rfl

theorem exclude_of_something (h : excludesNothing patterns tests = false) :
    g.exclude patterns tests = g.without (isExcluded patterns tests) := by
  rw [exclude, if_neg (by simp [h])]

/-- An exclusion depends on what it excludes, and on whether it excludes nothing. -/
theorem exclude_congr
    (hn : excludesNothing patterns tests = excludesNothing patterns' tests')
    (he : ∀ path, isExcluded patterns tests path = isExcluded patterns' tests' path) :
    g.exclude patterns tests = g.exclude patterns' tests' := by
  rw [exclude, exclude, hn, funext he]

/-- An exclusion is described as leaving out is, also if it excludes nothing. -/
theorem exclude_cases (g : ModuleGraph) (patterns : List String) (tests : Bool) :
    g.exclude patterns tests = g.without (isExcluded patterns tests) ∨
      g.exclude patterns tests = g ∧ ∀ path, g.isCut (isExcluded patterns tests) path = false := by
  cases h : excludesNothing patterns tests with
  | false => exact .inl (exclude_of_something h)
  | true =>
    obtain ⟨rfl, rfl⟩ := excludesNothing_iff.1 h
    refine .inr ⟨exclude_nothing g, fun path => ?_⟩
    rw [Bool.eq_false_iff, Ne, isCut_iff]
    rintro ⟨top, -, -, hp, -⟩
    cases hp

theorem mem_modules_exclude {m : Module} :
    m ∈ (g.exclude patterns tests).modules ↔
      m ∈ g.modules ∧ g.isCut (isExcluded patterns tests) m.path = false := by
  obtain h | ⟨h, hcut⟩ := exclude_cases g patterns tests
  · rw [h, mem_modules_without]
  · simp [h, hcut]

theorem mem_edges_exclude {e : Edge} :
    e ∈ (g.exclude patterns tests).edges ↔
      e ∈ g.edges ∧ g.isCut (isExcluded patterns tests) e.source = false ∧
        g.isCut (isExcluded patterns tests) e.target = false := by
  obtain h | ⟨h, hcut⟩ := exclude_cases g patterns tests
  · rw [h, mem_edges_without]
  · simp [h, hcut]

theorem contains_exclude_iff {path : ModulePath} :
    (g.exclude patterns tests).contains path = true ↔
      g.contains path = true ∧ g.isCut (isExcluded patterns tests) path = false := by
  obtain h | ⟨h, hcut⟩ := exclude_cases g patterns tests
  · rw [h, contains_without_iff]
  · simp [h, hcut]

/-- What an exclusion leaves is in the old order, and nothing else changes. -/
theorem exclude_frame (g : ModuleGraph) (patterns : List String) (tests : Bool) :
    (g.exclude patterns tests).modules.Sublist g.modules ∧
      (g.exclude patterns tests).edges.Sublist g.edges ∧
      (g.exclude patterns tests).diagnostics = g.diagnostics ∧
      (g.exclude patterns tests).unit = g.unit := by
  obtain h | ⟨h, -⟩ := exclude_cases g patterns tests
  · rw [h]
    exact ⟨List.filter_sublist, List.filter_sublist, rfl, rfl⟩
  · rw [h]
    exact ⟨.refl _, .refl _, rfl, rfl⟩

/-- **Excluding twice** is excluding both at once. -/
theorem exclude_exclude (g : ModuleGraph) (patterns patterns' : List String)
    (tests tests' : Bool) :
    (g.exclude patterns tests).exclude patterns' tests'
      = g.exclude (patterns ++ patterns') (tests || tests') := by
  cases h : excludesNothing patterns tests with
  | true =>
    obtain ⟨rfl, rfl⟩ := excludesNothing_iff.1 h
    rw [exclude_nothing, List.nil_append, Bool.false_or]
  | false =>
    cases h' : excludesNothing patterns' tests' with
    | true =>
      obtain ⟨rfl, rfl⟩ := excludesNothing_iff.1 h'
      rw [exclude_nothing, List.append_nil, Bool.or_false]
    | false =>
      have hboth : excludesNothing (patterns ++ patterns') (tests || tests') = false := by
        rw [excludesNothing_append, h, Bool.false_and]
      rw [exclude_of_something h, exclude_of_something h', exclude_of_something hboth,
        without_without]
      exact congrArg g.without (funext fun path => (isExcluded_append path).symm)

theorem exclude_self (g : ModuleGraph) (patterns : List String) (tests : Bool) :
    (g.exclude patterns tests).exclude patterns tests = g.exclude patterns tests := by
  rw [exclude_exclude]
  refine exclude_congr ?_ fun path => ?_
  · rw [excludesNothing_append, Bool.and_self]
  · rw [isExcluded_append, Bool.or_self]

theorem exclude_comm (g : ModuleGraph) (patterns patterns' : List String)
    (tests tests' : Bool) :
    (g.exclude patterns tests).exclude patterns' tests'
      = (g.exclude patterns' tests').exclude patterns tests := by
  rw [exclude_exclude, exclude_exclude]
  refine exclude_congr ?_ fun path => ?_
  · rw [excludesNothing_append, excludesNothing_append, Bool.and_comm]
  · rw [isExcluded_append, isExcluded_append, Bool.or_comm]

/-- **Exclusions compose and commute**, from any graph on and with everything that belongs to a
graph: one after the other they do what one exclusion does that has the patterns of both, none does
anything a second time, and their order does not matter.  The same is true of leaving out the
modules of any two predicates.  In both cases a module goes exactly if it lies at or below one that
is to go. -/
theorem exclusions_compose (g : ModuleGraph) :
    (∀ patterns patterns' tests tests',
      (g.exclude patterns tests).exclude patterns' tests'
          = g.exclude (patterns ++ patterns') (tests || tests') ∧
        (g.exclude patterns tests).exclude patterns tests = g.exclude patterns tests ∧
        (g.exclude patterns tests).exclude patterns' tests'
          = (g.exclude patterns' tests').exclude patterns tests) ∧
    (∀ p q : ModulePath → Bool,
      (g.without p).without q = (g.without fun path => p path || q path) ∧
        (g.without p).without p = g.without p ∧
        (g.without p).without q = (g.without q).without p) ∧
    (∀ patterns tests m, m ∈ (g.exclude patterns tests).modules ↔
      m ∈ g.modules ∧ ¬∃ top, g.contains top = true ∧ top ≠ .root ∧
        isExcluded patterns tests top = true ∧ m.path.isWithin top = true) ∧
    ∀ p m, m ∈ (g.without p).modules ↔
      m ∈ g.modules ∧ ¬∃ top, g.contains top = true ∧ top ≠ .root ∧ p top = true ∧
        m.path.isWithin top = true := by
  refine ⟨?_, ?_, fun patterns tests m => ?_, fun p m => ?_⟩
  · intro patterns patterns' tests tests'
    exact ⟨g.exclude_exclude patterns patterns' tests tests', g.exclude_self patterns tests,
      g.exclude_comm patterns patterns' tests tests'⟩
  · intro p q
    exact ⟨g.without_without p q, g.without_self p, g.without_comm p q⟩
  · rw [mem_modules_exclude, Bool.eq_false_iff, Ne, isCut_iff]
  · rw [mem_modules_without, Bool.eq_false_iff, Ne, isCut_iff]

end ModuleGraph

end CrateAtlas
