import CrateAtlas.Proofs.UseGroups

/-!
# A `self` in front of `super`

In the language, `self::super::x` and `super::x` name the same item.  The resolver treats the two
differently: after `self` it follows segment by segment from the current module, and `super` is then
the name of a module like any other.  As no module has that name, **every path `self::super::…`
leads to the current module** (`target?_self_super`), and the dependency is lost.

`Neutral` says for which paths the `self` makes no difference all the same.  A path that climbs has
to come back: it names, one by one, the modules from where it climbed to down to the current one.
The walk down passes through the current module exactly in that case (`prefix_deepest_iff`).
-/

set_option autoImplicit false

namespace CrateAtlas.ImportTarget

variable {known : ModulePath → Bool} {current : ModulePath}

/-! ## Walks that pass through a module -/

/-- All modules are known from `base` down to the module that `middle` leads to. -/
def KnownBetween (known : ModulePath → Bool) (base : ModulePath) (middle : List String) : Prop :=
  ∀ names, names <+: middle → known ⟨base.segments ++ names⟩ = true

theorem knownBetween_nil {base : ModulePath} : KnownBetween known base [] ↔ known base = true := by
  simp [KnownBetween]

theorem knownBetween_cons {base : ModulePath} {segment : String} {middle : List String} :
    KnownBetween known base (segment :: middle) ↔
      known base = true ∧ KnownBetween known (base.child segment) middle := by
  have hchild : ∀ names, (⟨base.segments ++ segment :: names⟩ : ModulePath)
      = ⟨(base.child segment).segments ++ names⟩ := by simp [ModulePath.child]
  constructor
  · refine fun h => ⟨by simpa using h [] List.nil_prefix, fun names hnames => ?_⟩
    rw [← hchild]
    exact h _ (List.cons_prefix_cons.2 ⟨rfl, hnames⟩)
  · rintro ⟨hbase, h⟩ names hnames
    rcases List.prefix_cons_iff.1 hnames with rfl | ⟨rest, rfl, hrest⟩
    · simpa using hbase
    · rw [hchild]
      exact h rest hrest

/-- A walk goes on from the modules that it passes. -/
theorem deepest_append {base : ModulePath} {middle : List String}
    (h : KnownBetween known base middle) (after : RawPath) :
    deepest known base (middle ++ after) = deepest known ⟨base.segments ++ middle⟩ after := by
  induction middle generalizing base with
  | nil => simp
  | cons segment middle ih =>
    have hbelow := (knownBetween_cons.1 h).2
    have hchild : known (base.child segment) = true := by
      simpa using hbelow [] List.nil_prefix
    rw [List.cons_append, deepest, if_pos hchild, ih hbelow]
    simp [ModulePath.child]

/-- **A walk passes through a module** exactly if it is told the names on the way, and all modules
there are known. -/
theorem prefix_deepest_iff {base : ModulePath} (hbase : known base = true) {middle : List String}
    {rest : RawPath} :
    base.segments ++ middle <+: (deepest known base rest).segments ↔
      KnownBetween known base middle ∧ ∃ after, rest = middle ++ after := by
  constructor
  · intro h
    induction middle generalizing base rest with
    | nil => exact ⟨knownBetween_nil.2 hbase, rest, rfl⟩
    | cons segment middle ih =>
      have hstays : deepest known base rest ≠ base := by
        intro hstays
        have hlength := h.length_le
        rw [hstays, List.length_append, List.length_cons] at hlength
        omega
      cases rest with
      | nil => exact absurd rfl hstays
      | cons first rest =>
        rw [deepest] at h hstays
        split at h
        · rename_i hfirst
          -- Both names come right after the base on the way to the same module.
          have hnames : (base.child first).segments <+: base.segments ++ segment :: middle := by
            refine List.prefix_of_prefix_length_le (prefix_deepest known (base.child first) rest)
              h ?_
            simp [ModulePath.child]
          obtain rfl : first = segment := by simpa [ModulePath.child] using hnames
          have hsame : base.segments ++ first :: middle
              = (base.child first).segments ++ middle := by simp [ModulePath.child]
          obtain ⟨hbetween, after, rfl⟩ := ih hfirst (hsame ▸ h)
          exact ⟨knownBetween_cons.2 ⟨hbase, hbetween⟩, after, rfl⟩
        · rename_i hfirst
          exact absurd (if_neg hfirst) hstays
  · rintro ⟨hbetween, after, rfl⟩
    rw [deepest_append hbetween]
    exact prefix_deepest known _ after

/-! ## Targets with and without `self` -/

/-- After `self` the path is followed from the current module, as it is written. -/
theorem target?_self (known : ModulePath → Bool) (current : ModulePath) (raw : RawPath) :
    target? known current ("self" :: raw)
      = if known current then some (deepest known current raw) else none := rfl

/-- The path of the module that `k` segments `super` climb to. -/
def climbed (current : ModulePath) (k : Nat) : ModulePath :=
  ⟨current.segments.take (current.segments.length - k)⟩

theorem climbed_append (current : ModulePath) (k : Nat) :
    (climbed current k).segments ++ current.segments.drop (current.segments.length - k)
      = current.segments :=
  List.take_append_drop _ _

theorem target?_super {k : Nat} (one : 1 ≤ k) {rest : RawPath}
    (all : rest.head? ≠ some "super") :
    target? known current (List.replicate k "super" ++ rest)
      = if k ≤ current.segments.length ∧ known (climbed current k) = true then
          some (deepest known (climbed current k) rest)
        else none := by
  rw [target?, start?_replicate one all]
  by_cases hk : k ≤ current.segments.length
  · simp [hk, climbed]
  · simp [hk]

/-- **The paths before which `self` makes no difference**, among those that start with `super`. -/
inductive Neutral (known : ModulePath → Bool) (current : ModulePath) : RawPath → Prop
  /-- The current module is not known, and neither is the one that the path climbs to. -/
  | astray {k : Nat} {rest : RawPath} (one : 1 ≤ k) (all : rest.head? ≠ some "super")
      (unknown : known current = false)
      (lost : k ≤ current.segments.length → known (climbed current k) = false) :
      Neutral known current (List.replicate k "super" ++ rest)
  /-- The path comes back to the current module, and what is left of it leads from there to where
  the path leads as it is written. -/
  | back {k : Nat} {after : RawPath} (one : 1 ≤ k) (depth : k ≤ current.segments.length)
      (all : (current.segments.drop (current.segments.length - k) ++ after).head? ≠ some "super")
      (between : KnownBetween known (climbed current k)
        (current.segments.drop (current.segments.length - k)))
      (same : deepest known current after = deepest known current (List.replicate k "super" ++
        (current.segments.drop (current.segments.length - k) ++ after))) :
      Neutral known current (List.replicate k "super" ++
        (current.segments.drop (current.segments.length - k) ++ after))

/-- A path that starts with `super` starts with some number of them. -/
theorem exists_replicate_of_head? {raw : RawPath} (h : raw.head? = some "super") :
    ∃ k rest, 1 ≤ k ∧ raw = List.replicate k "super" ++ rest ∧ rest.head? ≠ some "super" := by
  obtain ⟨k, rest, rfl, hrest⟩ := exists_replicate_super raw
  refine ⟨k, rest, ?_, rfl, hrest⟩
  by_contra hk
  obtain rfl : k = 0 := by omega
  exact hrest h

theorem Neutral.target?_eq {raw : RawPath} (h : Neutral known current raw) :
    target? known current ("self" :: raw) = target? known current raw := by
  cases h with
  | astray one all unknown lost =>
    rw [target?_self, target?_super one all, if_neg (by simp [unknown]), if_neg]
    rintro ⟨depth, hk⟩
    simp [lost depth] at hk
  | @back k after one depth all between same =>
    have hclimbed : known (climbed current k) = true := by
      simpa using between [] List.nil_prefix
    have hcurrent : known current = true := by
      have hlast := between _ List.prefix_rfl
      rwa [climbed_append] at hlast
    rw [target?_self, target?_super one all, if_pos hcurrent, if_pos ⟨depth, hclimbed⟩,
      deepest_append between, climbed_append, ← same]

/-- A path is neutral if `self` makes no difference before it. -/
theorem neutral_of_target?_eq {raw : RawPath} (hraw : raw.head? = some "super")
    (h : target? known current ("self" :: raw) = target? known current raw) :
    Neutral known current raw := by
  obtain ⟨k, rest, one, rfl, all⟩ := exists_replicate_of_head? hraw
  rw [target?_self, target?_super one all] at h
  by_cases hcurrent : known current = true
  · rw [if_pos hcurrent] at h
    split at h
    · rename_i hclimbed
      obtain ⟨depth, hclimbed⟩ := hclimbed
      have hwalks := Option.some.inj h
      -- The walk from the current module stays at or below it, and so does the other one.
      have hthrough : (climbed current k).segments ++
          current.segments.drop (current.segments.length - k)
            <+: (deepest known (climbed current k) rest).segments := by
        rw [climbed_append, ← hwalks]
        exact prefix_deepest known current _
      obtain ⟨between, after, rfl⟩ := (prefix_deepest_iff hclimbed).1 hthrough
      refine .back one depth all between ?_
      rw [hwalks, deepest_append between, climbed_append]
    · cases h
  · rw [if_neg hcurrent] at h
    refine .astray one all (by simpa using hcurrent) fun depth => ?_
    by_contra hclimbed
    rw [if_pos ⟨depth, by simpa using hclimbed⟩] at h
    cases h

/-! ## Crates in which no module is called `super` -/

/-- A walk stays where it is if its first step leads to no module. -/
theorem deepest_eq_self_iff {base : ModulePath} {path : RawPath} :
    deepest known base path = base ↔
      ∀ segment, path.head? = some segment → known (base.child segment) = false := by
  cases path with
  | nil => simp [deepest]
  | cons first rest =>
    rw [deepest]
    constructor
    · intro h segment hsegment
      obtain rfl : first = segment := by simpa using hsegment
      by_contra hchild
      rw [if_pos (by simpa using hchild)] at h
      have hlength := (prefix_deepest known (base.child first) rest).length_le
      rw [h, ModulePath.child, List.length_append, List.length_singleton] at hlength
      omega
    · intro h
      rw [if_neg (by simp [h first rfl])]

/-- **A path `self::super::…` leads to the current module**, as no module is called `super`. -/
theorem target?_self_super (hcurrent : known current = true)
    (hsuper : known (current.child "super") = false) {raw : RawPath}
    (hraw : raw.head? = some "super") : target? known current ("self" :: raw) = some current := by
  have hstays : deepest known current raw = current := by
    refine deepest_eq_self_iff.2 fun segment hsegment => ?_
    obtain rfl : "super" = segment := by simpa [hraw] using hsegment
    exact hsuper
  rw [target?_self, if_pos hcurrent, hstays]

/-- The path climbs and names all modules on the way back to the current one, and what it names
after that is none. -/
def ComesBack (known : ModulePath → Bool) (current : ModulePath) (raw : RawPath) : Prop :=
  ∃ k after, 1 ≤ k ∧ k ≤ current.segments.length ∧
    raw = List.replicate k "super" ++
      (current.segments.drop (current.segments.length - k) ++ after) ∧
    ∀ segment, after.head? = some segment → known (current.child segment) = false

/-- In a crate, the neutral paths are those that come back. -/
theorem neutral_iff_comesBack (h : KnownTree known) (hcurrent : known current = true)
    (hsuper : ∀ path, known path = true → "super" ∉ path.segments) {raw : RawPath} :
    Neutral known current raw ↔ ComesBack known current raw := by
  have hstays : ∀ k rest, 1 ≤ k →
      deepest known current (List.replicate k "super" ++ rest) = current := by
    intro k rest one
    obtain ⟨k, rfl⟩ := Nat.exists_eq_add_of_le' one
    refine deepest_eq_self_iff.2 fun segment hsegment => ?_
    obtain rfl : "super" = segment := by simpa [List.replicate_succ] using hsegment
    by_contra hknown
    exact hsuper (current.child "super") (by simpa using hknown) (by simp [ModulePath.child])
  constructor
  · intro hneutral
    cases hneutral with
    | astray one all unknown lost => simp [hcurrent] at unknown
    | @back k after one depth all between same =>
      refine ⟨k, after, one, depth, rfl, deepest_eq_self_iff.1 ?_⟩
      rw [same, hstays k _ one]
  · rintro ⟨k, after, one, depth, rfl, hafter⟩
    refine .back one depth ?_ (fun names hnames => ?_) ?_
    · -- The first segment after the climb is one of the current module.
      cases hdrop : current.segments.drop (current.segments.length - k) with
      | nil =>
        have hlength := List.drop_eq_nil_iff.1 hdrop
        omega
      | cons first others =>
        have hfirst : first ∈ current.segments :=
          List.mem_of_mem_drop (hdrop ▸ List.mem_cons_self)
        rw [List.cons_append, List.head?_cons]
        rintro hname
        exact hsuper current hcurrent (Option.some.inj hname ▸ hfirst)
    · refine h.known_above hcurrent ?_
      rw [← climbed_append current k]
      exact (List.prefix_append_right_inj _).2 hnames
    · rw [hstays k _ one]
      exact deepest_eq_self_iff.2 hafter

end ImportTarget

/-! ## Use trees -/

/-- The clause `self::{tree}`. -/
def UseTree.underSelf (tree : UseTree) : UseTree := .path "self" (.group [tree])

namespace ImportTarget

variable {known : ModulePath → Bool} {current : ModulePath}

theorem targets_singleton (tree : UseTree) :
    targets known current [tree] = tree.foreign?.elim
      (.ok (tree.leafPaths.filterMap (target? known current)).eraseDups) (.error ∘ .ofForeign) := by
  rw [targets_eq, UseTree.foreignIn?_singleton, UseTree.leafPathsIn_singleton]

theorem targets_underSelf (tree : UseTree) :
    targets known current [tree.underSelf] = tree.foreign?.elim
      (.ok (tree.leafPaths.filterMap fun raw => target? known current ("self" :: raw)).eraseDups)
      (.error ∘ .ofForeign) := by
  rw [targets_singleton, UseTree.underSelf, UseTree.foreign?, UseTree.leafPaths, UseTree.foreign?,
    UseTree.leafPaths, UseTree.foreignIn?_singleton, UseTree.leafPathsIn_singleton,
    List.filterMap_map]
  rfl

theorem targets_underSelf_eq {tree : UseTree}
    (h : ∀ leaf ∈ tree.leafPaths, Neutral known current leaf) :
    targets known current [tree.underSelf] = targets known current [tree] := by
  rw [targets_underSelf, targets_singleton,
    List.filterMap_congr fun leaf hleaf => (h leaf hleaf).target?_eq]

theorem eraseDups_eq_singleton_iff {paths : List ModulePath} {path : ModulePath} :
    paths.eraseDups = [path] ↔ paths ≠ [] ∧ ∀ p ∈ paths, p = path := by
  constructor
  · intro h
    have hmem : ∀ p, p ∈ paths ↔ p = path := by
      intro p
      rw [← List.mem_eraseDups, h, List.mem_singleton]
    refine ⟨?_, fun p hp => (hmem p).1 hp⟩
    rintro rfl
    cases h
  · rintro ⟨hne, hall⟩
    obtain ⟨p, rest, rfl⟩ := List.exists_cons_of_ne_nil hne
    obtain ⟨rfl, hrest⟩ := List.forall_mem_cons.1 hall
    have hothers : rest.filter (fun q => !q == p) = [] := by
      simpa using hrest
    rw [List.eraseDups_cons, hothers]
    rfl

/-- In a crate, a clause `self::{tree}` whose paths all start with `super` leads to the current
module alone.  It has the targets of the tree exactly if the tree leads there too, and nowhere
else. -/
theorem targets_underSelf_eq_iff (hcurrent : known current = true)
    (hsuper : known (current.child "super") = false) {tree : UseTree}
    (hforeign : tree.foreign? = none)
    (hleaves : ∀ leaf ∈ tree.leafPaths, leaf.head? = some "super") (hne : tree.leafPaths ≠ []) :
    targets known current [tree.underSelf] = targets known current [tree] ↔
      (∃ leaf ∈ tree.leafPaths, target? known current leaf = some current) ∧
        ∀ leaf ∈ tree.leafPaths, ∀ m, target? known current leaf = some m → m = current := by
  have hself : (tree.leafPaths.filterMap fun raw => target? known current ("self" :: raw)).eraseDups
      = [current] := by
    rw [List.filterMap_congr fun leaf hleaf =>
      target?_self_super hcurrent hsuper (hleaves leaf hleaf)]
    refine eraseDups_eq_singleton_iff.2 ⟨by simpa using hne, fun p hp => ?_⟩
    obtain ⟨leaf, -, hleaf⟩ := List.mem_filterMap.1 hp
    exact (Option.some.inj hleaf).symm
  rw [targets_underSelf, targets_singleton, hforeign, Option.elim_none, Option.elim_none, hself,
    Except.ok.injEq, eq_comm, eraseDups_eq_singleton_iff]
  constructor
  · rintro ⟨hsome, hall⟩
    obtain ⟨p, hp⟩ := List.exists_mem_of_ne_nil _ hsome
    obtain ⟨leaf, hleaf, ht⟩ := List.mem_filterMap.1 hp
    refine ⟨⟨leaf, hleaf, hall p hp ▸ ht⟩, fun leaf hleaf m hm => ?_⟩
    exact hall m (List.mem_filterMap.2 ⟨leaf, hleaf, hm⟩)
  · rintro ⟨⟨leaf, hleaf, ht⟩, hall⟩
    refine ⟨List.ne_nil_of_mem (List.mem_filterMap.2 ⟨leaf, hleaf, ht⟩), fun p hp => ?_⟩
    obtain ⟨leaf, hleaf, hm⟩ := List.mem_filterMap.1 hp
    exact hall leaf hleaf p hm

/-- **When a leading `self` is neutral before `super`.**  For every set of known modules and every
current module, a path that starts with `super` has the same target with and without `self` in front
exactly if it is `Neutral`, and a use tree of such paths has the same targets below `self`.

In a crate no module is called `super`.  There the neutral paths are those that come back to the
current module; any other path loses its target, since with `self` all of them lead to the current
module.  A use tree has the same targets below `self` exactly if it leads to the current module and
to no other. -/
theorem leading_self_neutral_iff (known : ModulePath → Bool) (current : ModulePath) :
    (∀ raw, raw.head? = some "super" →
      (target? known current ("self" :: raw) = target? known current raw ↔
        Neutral known current raw)) ∧
    (∀ tree : UseTree, (∀ leaf ∈ tree.leafPaths, Neutral known current leaf) →
      targets known current [tree.underSelf] = targets known current [tree]) ∧
    (KnownTree known → known current = true →
      (∀ path, known path = true → "super" ∉ path.segments) →
      (∀ raw, Neutral known current raw ↔ ComesBack known current raw) ∧
      (∀ raw, raw.head? = some "super" →
        target? known current ("self" :: raw) = some current) ∧
      ∀ tree : UseTree, tree.foreign? = none →
        (∀ leaf ∈ tree.leafPaths, leaf.head? = some "super") → tree.leafPaths ≠ [] →
        (targets known current [tree.underSelf] = targets known current [tree] ↔
          (∃ leaf ∈ tree.leafPaths, target? known current leaf = some current) ∧
          ∀ leaf ∈ tree.leafPaths, ∀ m, target? known current leaf = some m → m = current)) := by
  refine ⟨fun raw hraw => ⟨neutral_of_target?_eq hraw, Neutral.target?_eq⟩,
    fun tree => targets_underSelf_eq, fun h hcurrent hsuper => ?_⟩
  have hchild : known (current.child "super") = false := by
    by_contra hknown
    exact hsuper (current.child "super") (by simpa using hknown) (by simp [ModulePath.child])
  exact ⟨fun raw => neutral_iff_comesBack h hcurrent hsuper,
    fun raw => target?_self_super hcurrent hchild,
    fun tree => targets_underSelf_eq_iff hcurrent hchild⟩

namespace Sample

theorem super_not_mem (path : ModulePath) (h : isModule path = true) : "super" ∉ path.segments := by
  have hnames : ∀ path ∈ modules, "super" ∉ path.segments := by decide
  exact hnames path (by simpa [isModule] using h)

/-- The clause `super::{delta::X, delta::Y}`. -/
def backTree : UseTree :=
  .path "super" (.group [.path "delta" (.name "X"), .path "delta" (.name "Y")])

theorem comesBack_delta (item : String) (h : item = "X" ∨ item = "Y") :
    ComesBack isModule delta ["super", "delta", item] := by
  refine ⟨1, [item], Nat.le_refl 1, by decide, rfl, fun segment hsegment => ?_⟩
  obtain rfl : item = segment := by simpa using hsegment
  rcases h with rfl | rfl <;> decide

end Sample

/-- In `alpha::delta`, the paths of `super::{delta::X, delta::Y}` come back to the module itself,
and `self::{super::{delta::X, delta::Y}}` leads there too. -/
theorem self_neutral_on_way_back :
    KnownTree Sample.isModule ∧ Sample.isModule Sample.delta = true ∧
      ComesBack Sample.isModule Sample.delta ["super", "delta", "X"] ∧
      target? Sample.isModule Sample.delta ["self", "super", "delta", "X"] = some Sample.delta ∧
      target? Sample.isModule Sample.delta ["super", "delta", "X"] = some Sample.delta ∧
      targets Sample.isModule Sample.delta [Sample.backTree.underSelf]
        = targets Sample.isModule Sample.delta [Sample.backTree] := by
  have hknown : Sample.isModule Sample.delta = true := by decide
  obtain ⟨hpath, htree, hcrate⟩ := leading_self_neutral_iff Sample.isModule Sample.delta
  obtain ⟨hback, hself, -⟩ := hcrate Sample.knownTree_isModule hknown Sample.super_not_mem
  have hx := Sample.comesBack_delta "X" (.inl rfl)
  have htarget := hself ["super", "delta", "X"] rfl
  refine ⟨Sample.knownTree_isModule, hknown, hx, htarget, ?_, htree _ fun leaf hleaf => ?_⟩
  · rw [← (hpath _ rfl).2 ((hback _).2 hx)]
    exact htarget
  · have hleaves : Sample.backTree.leafPaths = [["super", "delta", "X"], ["super", "delta", "Y"]] :=
      rfl
    rw [hleaves, List.mem_cons, List.mem_singleton] at hleaf
    rcases hleaf with rfl | rfl
    · exact (hback _).2 hx
    · exact (hback _).2 (Sample.comesBack_delta "Y" (.inr rfl))

/-- In `alpha::delta`, an import of `super::X` depends on `alpha`, and one of `self::super::X` is
taken for one of `alpha::delta` itself; so is `self::{super::X}`. -/
theorem self_hides_super :
    KnownTree Sample.isModule ∧ Sample.isModule Sample.delta = true ∧
      target? Sample.isModule Sample.delta ["super", "X"] = some ⟨["alpha"]⟩ ∧
      target? Sample.isModule Sample.delta ["self", "super", "X"] = some ⟨["alpha", "delta"]⟩ ∧
      targets Sample.isModule Sample.delta [.path "super" (.name "X")] = .ok [⟨["alpha"]⟩] ∧
      targets Sample.isModule Sample.delta [UseTree.underSelf (.path "super" (.name "X"))]
        = .ok [⟨["alpha", "delta"]⟩] :=
  ⟨Sample.knownTree_isModule, by decide, by decide, by decide, rfl, rfl⟩

end CrateAtlas.ImportTarget
