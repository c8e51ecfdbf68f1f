import CrateAtlas.Proofs.Exclusion
import CrateAtlas.Proofs.UseItems

/-!
# Where a path in a use item leads

A path in a `use` item is short for an *absolute* one, which is followed from the root of the crate.
`Absolute known current raw scope path` says which, case by case: `scope` is the module that the
path starts from, and `path` are the segments from the root on.  A path that stands for none leads
out of the crate (`LeadsOut`), and there are four ways to do that.

The target of an import is the **longest beginning of the absolute path that is a module**
(`imports_deepest_known`).  The search for it does not look at all beginnings: it walks down from
the scope and stops at the first segment that is no module.  Nothing is missed by that as long as
the known modules form a tree (`KnownTree`), since a module further down would have all modules
above it (`KnownTree.isDeepest_deepest`).
-/

set_option autoImplicit false

namespace CrateAtlas.ImportTarget

/-- The known modules form a tree: the root is one of them, and so is what lies above any of them.
No module is called like the segment for a leading `::`. -/
structure KnownTree (known : ModulePath → Bool) : Prop where
  root_known : known .root = true
  parent_known : ∀ path parent, known path = true → path.parent? = some parent →
    known parent = true
  marker_not_mem : ∀ path, known path = true → externMarker ∉ path.segments

/-- The segments that do not name a module if they come first. -/
def keywords : List String := ["crate", "self", "super"]

/-- `Absolute known current raw scope path`: seen from the current module, a path of a use item
starts from the module `scope` and stands for `path`. -/
inductive Absolute (known : ModulePath → Bool) (current : ModulePath) :
    RawPath → ModulePath → RawPath → Prop
  | ofCrate (rest : RawPath) : Absolute known current ("crate" :: rest) .root rest
  | ofSelf (rest : RawPath) :
      Absolute known current ("self" :: rest) current (current.segments ++ rest)
  | ofSuper {k : Nat} {rest : RawPath} (one : 1 ≤ k) (depth : k ≤ current.segments.length)
      (all : rest.head? ≠ some "super") :
      Absolute known current (List.replicate k "super" ++ rest)
        ⟨current.segments.take (current.segments.length - k)⟩
        (current.segments.take (current.segments.length - k) ++ rest)
  | ofChild {head : String} {rest : RawPath} (plain : head ∉ keywords)
      (child : known (current.child head) = true) :
      Absolute known current (head :: rest) current (current.segments ++ head :: rest)
  | ofTop {head : String} {rest : RawPath} (plain : head ∉ keywords)
      (other : known (current.child head) = false)
      (top : known (ModulePath.root.child head) = true) :
      Absolute known current (head :: rest) .root (head :: rest)

/-- The paths that lead out of the crate: that without segments, those that climb above the root,
those with a leading `::`, and those that begin with the name of another crate. -/
inductive LeadsOut (known : ModulePath → Bool) (current : ModulePath) : RawPath → Prop
  | empty : LeadsOut known current []
  | above {k : Nat} (rest : RawPath) (high : current.segments.length < k) :
      LeadsOut known current (List.replicate k "super" ++ rest)
  | marked (rest : RawPath) : LeadsOut known current (externMarker :: rest)
  | foreign {head : String} (rest : RawPath) (plain : head ∉ keywords)
      (other : known (current.child head) = false)
      (none : known (ModulePath.root.child head) = false) :
      LeadsOut known current (head :: rest)

/-- The target is the longest beginning of the path that is a known module. -/
structure IsDeepest (known : ModulePath → Bool) (path : RawPath) (target : ModulePath) :
    Prop where
  is_known : known target = true
  begins : target.segments <+: path
  longest : ∀ other, known other = true → other.segments <+: path →
    other.segments.length ≤ target.segments.length

variable {known : ModulePath → Bool} {current : ModulePath}

/-! ## Walking down -/

theorem KnownTree.known_above (h : KnownTree known) {path top : ModulePath}
    (hk : known path = true) (hp : top.segments <+: path.segments) : known top = true :=
  ModulePath.of_isWithin (P := fun path => known path = true) h.parent_known hk
    (ModulePath.isWithin_iff.2 hp)

/-- A walk never leaves the module that it starts from. -/
theorem prefix_deepest (known : ModulePath → Bool) (base : ModulePath) (rest : RawPath) :
    base.segments <+: (deepest known base rest).segments := by
  induction rest generalizing base with
  | nil => exact List.prefix_refl _
  | cons segment rest ih =>
    rw [deepest]
    split
    · exact (List.prefix_append _ _).trans (ih (base.child segment))
    · exact List.prefix_refl _

/-- **Walking down finds the deepest module.** -/
theorem KnownTree.isDeepest_deepest (h : KnownTree known) {base : ModulePath}
    (hb : known base = true) (rest : RawPath) :
    IsDeepest known (base.segments ++ rest) (deepest known base rest) := by
  induction rest generalizing base with
  | nil =>
    refine ⟨hb, List.prefix_append _ _, fun other _ hp => ?_⟩
    simpa [deepest] using hp.length_le
  | cons segment rest ih =>
    have hpath : base.segments ++ segment :: rest = (base.child segment).segments ++ rest := by
      simp [ModulePath.child]
    rw [deepest]
    split
    · rename_i hk
      rw [hpath]
      exact ih hk
    · rename_i hk
      refine ⟨hb, List.prefix_append _ _, fun other ho hp => ?_⟩
      by_contra hlong
      -- A longer beginning that is a module has the child at which the walk stopped above it.
      have hchild : (base.child segment).segments <+: other.segments := by
        rw [hpath] at hp
        refine List.prefix_of_prefix_length_le (List.prefix_append _ _) hp ?_
        simp only [ModulePath.child, List.length_append, List.length_singleton]
        omega
      exact hk (h.known_above ho hchild)

/-! ## Starting -/

/-- Climbing takes off one segment for each `super`, as long as there is one. -/
theorem climb_replicate (k : Nat) {rest : RawPath} (hrest : rest.head? ≠ some "super")
    (from_ : ModulePath) :
    climb from_ (List.replicate k "super" ++ rest)
      = if k ≤ from_.segments.length then
          some (⟨from_.segments.take (from_.segments.length - k)⟩, rest)
        else none := by
  induction k generalizing from_ with
  | zero =>
    cases rest with
    | nil => simp [climb]
    | cons segment rest =>
      have hs : segment ≠ "super" := by simpa using hrest
      simp [climb, hs]
  | succ k ih =>
    rw [List.replicate_succ, List.cons_append, climb, if_pos rfl]
    rcases List.eq_nil_or_concat from_.segments with hnil | ⟨init, last, hlast⟩
    · have hroot : from_ = .root := congrArg ModulePath.mk hnil
      subst hroot
      simp [ModulePath.parent?, ModulePath.isRoot, ModulePath.root]
    · have hparent : from_.parent? = some ⟨init⟩ := by
        simp [ModulePath.parent?, ModulePath.isRoot, hlast]
      have hlen : from_.segments.length = init.length + 1 := by simp [hlast]
      have htake : from_.segments.take (from_.segments.length - (k + 1))
          = init.take (init.length - k) := by
        rw [hlen, hlast, List.concat_eq_append, Nat.add_sub_add_right,
          List.take_append_of_le_length (Nat.sub_le _ _)]
      simp only [hparent, ih, htake]
      simp only [hlen, Nat.add_le_add_iff_right]

/-- Every path begins with some number of `super` segments. -/
theorem exists_replicate_super (raw : RawPath) :
    ∃ k rest, raw = List.replicate k "super" ++ rest ∧ rest.head? ≠ some "super" := by
  induction raw with
  | nil => exact ⟨0, [], rfl, by simp⟩
  | cons segment raw ih =>
    by_cases hs : segment = "super"
    · obtain ⟨k, rest, rfl, hrest⟩ := ih
      exact ⟨k + 1, rest, by rw [hs]; rfl, hrest⟩
    · exact ⟨0, segment :: raw, rfl, by simpa using hs⟩

/-- What is known of the start of a path that begins with `super` segments. -/
theorem start?_replicate {k : Nat} (hk : 1 ≤ k) {rest : RawPath}
    (hrest : rest.head? ≠ some "super") :
    start? known current (List.replicate k "super" ++ rest)
      = if k ≤ current.segments.length then
          some (⟨current.segments.take (current.segments.length - k)⟩, rest)
        else none := by
  obtain ⟨k, rfl⟩ := Nat.exists_eq_add_of_le' hk
  rw [← climb_replicate (k + 1) hrest]
  simp [List.replicate_succ, start?]

/-- The start of a path that begins with a plain name. -/
theorem start?_plain {head : String} (h : head ∉ keywords) (rest : RawPath) :
    start? known current (head :: rest)
      = if known (current.child head) then some (current, head :: rest)
        else if known (ModulePath.root.child head) then some (.root, head :: rest)
        else none := by
  simp only [keywords, List.mem_cons, List.not_mem_nil, or_false, not_or] at h
  simp [start?, h]

/-- The start of a path fits the absolute path that it stands for. -/
theorem Absolute.exists_start {raw path : RawPath} {scope : ModulePath}
    (h : Absolute known current raw scope path) :
    ∃ rest, start? known current raw = some (scope, rest) ∧ path = scope.segments ++ rest := by
  cases h with
  | ofCrate | ofSelf => exact ⟨_, rfl, rfl⟩
  | ofSuper one depth all => exact ⟨_, by rw [start?_replicate one all, if_pos depth], rfl⟩
  | ofChild plain child => exact ⟨_, by rw [start?_plain plain, if_pos child], rfl⟩
  | ofTop plain other top =>
    exact ⟨_, by rw [start?_plain plain, if_neg (by simp [other]), if_pos top], rfl⟩

/-- Every path stands for an absolute one or leads out of the crate. -/
theorem absolute_or_leadsOut (known : ModulePath → Bool) (current : ModulePath) (raw : RawPath) :
    (∃ scope path, Absolute known current raw scope path) ∨ LeadsOut known current raw := by
  cases raw with
  | nil => exact .inr .empty
  | cons head rest =>
    by_cases hk : head ∈ keywords
    · simp only [keywords, List.mem_cons, List.not_mem_nil, or_false] at hk
      rcases hk with rfl | rfl | rfl
      · exact .inl ⟨_, _, .ofCrate rest⟩
      · exact .inl ⟨_, _, .ofSelf rest⟩
      · obtain ⟨k, others, rfl, hothers⟩ := exists_replicate_super rest
        have hraw : "super" :: (List.replicate k "super" ++ others)
            = List.replicate (k + 1) "super" ++ others := rfl
        rw [hraw]
        by_cases hd : k + 1 ≤ current.segments.length
        · exact .inl ⟨_, _, .ofSuper (Nat.le_add_left _ _) hd hothers⟩
        · exact .inr (.above others (Nat.lt_of_not_le hd))
    · cases hchild : known (current.child head) with
      | true => exact .inl ⟨_, _, .ofChild hk hchild⟩
      | false =>
        cases htop : known (ModulePath.root.child head) with
        | true => exact .inl ⟨_, _, .ofTop hk hchild htop⟩
        | false => exact .inr (.foreign rest hk hchild htop)

/-- A path that leads out of the crate has no start. -/
theorem LeadsOut.start?_eq_none (h : KnownTree known) {raw : RawPath}
    (ho : LeadsOut known current raw) : start? known current raw = none := by
  cases ho with
  | empty => rfl
  | @above k rest high =>
    obtain ⟨j, others, rfl, hothers⟩ := exists_replicate_super rest
    rw [← List.append_assoc, List.replicate_append_replicate,
      start?_replicate (by omega) hothers, if_neg (by omega)]
  | marked rest =>
    have hunknown : ∀ path : ModulePath, known (path.child externMarker) = false := by
      intro path
      rw [Bool.eq_false_iff]
      exact fun hk => h.marker_not_mem _ hk (by simp [ModulePath.child])
    rw [start?_plain (by decide), hunknown, hunknown]
    rfl
  | foreign rest plain other top =>
    rw [start?_plain plain, other, top]
    rfl

theorem LeadsOut.not_absolute (h : KnownTree known) {raw : RawPath}
    (ho : LeadsOut known current raw) : ¬∃ scope path, Absolute known current raw scope path := by
  rintro ⟨scope, path, ha⟩
  obtain ⟨rest, hs, -⟩ := ha.exists_start
  cases (ho.start?_eq_none h).symm.trans hs

/-- A path starts from a known module, if it starts from any. -/
theorem Absolute.known_scope (h : KnownTree known) (hc : known current = true)
    {raw path : RawPath} {scope : ModulePath} (ha : Absolute known current raw scope path) :
    known scope = true := by
  cases ha with
  | ofCrate | ofTop => exact h.root_known
  | ofSelf | ofChild => exact hc
  | ofSuper => exact h.known_above hc <| List.take_prefix _ _

/-! ## The target of an import -/

/-- **An import leads to the deepest module on its path.**  A path has no target exactly if it leads
out of the crate, that is, if it stands for no absolute path.  A path that does stand for one stands
for no other, and its target is the longest beginning of it that is a known module; the scope is a
beginning of the target. -/
theorem imports_deepest_known (h : KnownTree known) (hc : known current = true) (raw : RawPath) :
    (target? known current raw = none ↔ ¬∃ scope path, Absolute known current raw scope path) ∧
    ((¬∃ scope path, Absolute known current raw scope path) ↔ LeadsOut known current raw) ∧
    ∀ scope path, Absolute known current raw scope path →
      (∀ scope' path', Absolute known current raw scope' path' → scope' = scope ∧ path' = path) ∧
      ∃ target, target? known current raw = some target ∧ IsDeepest known path target ∧
        scope.segments <+: target.segments := by
  have hout : (¬∃ scope path, Absolute known current raw scope path) ↔
      LeadsOut known current raw :=
    ⟨(absolute_or_leadsOut known current raw).resolve_left, fun ho => ho.not_absolute h⟩
  have htarget : ∀ scope path, Absolute known current raw scope path →
      ∃ target, target? known current raw = some target ∧ IsDeepest known path target ∧
        scope.segments <+: target.segments := by
    intro scope path ha
    obtain ⟨rest, hs, rfl⟩ := ha.exists_start
    have hk := ha.known_scope h hc
    exact ⟨deepest known scope rest, by simp [target?, hs, hk], h.isDeepest_deepest hk rest,
      prefix_deepest known scope rest⟩
  refine ⟨⟨?_, fun ho => ?_⟩, hout, fun scope path ha => ⟨fun scope' path' ha' => ?_, ?_⟩⟩
  · rintro hnone ⟨scope, path, ha⟩
    obtain ⟨target, ht, -⟩ := htarget scope path ha
    cases hnone.symm.trans ht
  · rw [target?, (hout.1 ho).start?_eq_none h]
  · obtain ⟨rest, hs, rfl⟩ := ha.exists_start
    obtain ⟨rest', hs', rfl⟩ := ha'.exists_start
    obtain ⟨rfl, rfl⟩ : scope' = scope ∧ rest' = rest := by simpa using hs'.symm.trans hs
    exact ⟨rfl, rfl⟩
  · exact htarget scope path ha

namespace Sample

/-- The modules of a small crate. -/
def modules : List ModulePath := [.root, ⟨["alpha"]⟩, ⟨["alpha", "delta"]⟩, ⟨["beta"]⟩]

/-- Whether a path is one of them. -/
def isModule (path : ModulePath) : Bool := modules.contains path

/-- The innermost of them. -/
def delta : ModulePath := ⟨["alpha", "delta"]⟩

/-- A path that it may import. -/
def raw : RawPath := ["super", "super", "beta", "X"]

theorem knownTree_isModule : KnownTree isModule where
  root_known := by decide
  parent_known := by
    have hup : ∀ path ∈ modules, ∀ parent ∈ path.parent?, isModule parent = true := by decide
    intro path parent hk hp
    exact hup path (by simpa [isModule] using hk) parent hp
  marker_not_mem := by
    have hnames : ∀ path ∈ modules, externMarker ∉ path.segments := by decide
    intro path hk
    exact hnames path (by simpa [isModule] using hk)

end Sample

/-- In `alpha::delta`, the path `super::super::beta::X` stands for `beta::X`, and an import of it
leads to the module `beta`. -/
theorem import_past_super :
    KnownTree Sample.isModule ∧ Sample.isModule Sample.delta = true ∧
      Absolute Sample.isModule Sample.delta Sample.raw .root ["beta", "X"] ∧
      target? Sample.isModule Sample.delta Sample.raw = some ⟨["beta"]⟩ ∧
      IsDeepest Sample.isModule ["beta", "X"] ⟨["beta"]⟩ := by
  have hknown : Sample.isModule Sample.delta = true := by decide
  have ha : Absolute Sample.isModule Sample.delta Sample.raw .root ["beta", "X"] :=
    @Absolute.ofSuper _ _ 2 ["beta", "X"] (by decide) (by decide) (by decide)
  have ht : target? Sample.isModule Sample.delta Sample.raw = some ⟨["beta"]⟩ := by decide
  obtain ⟨-, -, himport⟩ := imports_deepest_known Sample.knownTree_isModule hknown Sample.raw
  obtain ⟨-, target, htarget, hdeep, -⟩ := himport .root ["beta", "X"] ha
  cases ht.symm.trans htarget
  exact ⟨Sample.knownTree_isModule, hknown, ha, ht, hdeep⟩

end CrateAtlas.ImportTarget
