import Mathlib.Data.List.Chain
import Mathlib.Data.List.Perm.Subperm
import Mathlib.Logic.Relation

/-!
# Walking down from the top

A recursion that deals with an element first and then with its *kids*, one after the other, meets
elements in pre-order.  Nothing keeps such a recursion from going round in circles, and so it is
described here in two ways.

* `Walk kids as l` — the recursion as it is: starting from the elements `as` it meets the elements
  `l`.  It is a relation, and **there is such a list exactly if the recursion comes to an end**;
  there is never more than one (`Walk.unique`).
* `preorder kids n a` — the recursion down to a given depth, which can be computed.  If the elements
  are less deep than that (`Shallow`), it is the walk (`walk_preorder`).

A walk that never meets itself is shallow as soon as there are only finitely many elements to meet
(`shallow_of_acyclic`), because the way down to an element holds no element twice.

How a walk is *nested* can be read off the list and the depths of its elements alone: an element
belongs to the nearest one before it that is less deep (`Walk.nested_iff`).
-/

set_option autoImplicit false

namespace CrateAtlas

variable {α β : Type}

/-- What a recursion meets that starts from the given elements, one after the other: each of them,
followed by what it meets from the kids of that element. -/
inductive Walk (kids : α → List α) : List α → List α → Prop
  | nil : Walk kids [] []
  | cons {a : α} {rest below after : List α} (hb : Walk kids (kids a) below)
      (ha : Walk kids rest after) : Walk kids (a :: rest) (a :: (below ++ after))

namespace Walk

variable {kids : α → List α} {as bs l m : List α}

theorem unique (h : Walk kids as l) (h' : Walk kids as m) : l = m := by
  induction h generalizing m with
  | nil =>
    cases h'
    rfl
  | cons _ _ ihb iha =>
    cases h' with
    | cons hb' ha' => rw [ihb hb', iha ha']

theorem append (h : Walk kids as l) (h' : Walk kids bs m) : Walk kids (as ++ bs) (l ++ m) := by
  induction h with
  | nil => exact h'
  | cons hb _ _ iha =>
    rw [List.cons_append, List.cons_append, List.append_assoc]
    exact .cons hb iha

/-- A map that fits the kids takes a walk to a walk. -/
theorem map {kids' : β → List β} {f : α → β} (hf : ∀ a, kids' (f a) = (kids a).map f)
    (h : Walk kids as l) : Walk kids' (as.map f) (l.map f) := by
  induction h with
  | nil => exact .nil
  | cons _ _ ihb iha =>
    rw [List.map_cons, List.map_cons, List.map_append]
    exact .cons (hf _ ▸ ihb) iha

/-- What holds at the start and is handed down to kids holds all along. -/
theorem forall_mem {P : α → Prop} (hk : ∀ a, P a → ∀ b ∈ kids a, P b) (h : Walk kids as l)
    (has : ∀ a ∈ as, P a) : ∀ x ∈ l, P x := by
  induction h with
  | nil => simp
  | @cons a _ _ _ _ _ ihb iha =>
    have ha : P a := has a List.mem_cons_self
    rw [List.forall_mem_cons, List.forall_mem_append]
    exact ⟨ha, ihb (hk a ha), iha fun b hb => has b (List.mem_cons_of_mem _ hb)⟩

theorem subset (h : Walk kids as l) : as ⊆ l := by
  induction h with
  | nil => exact fun _ h => h
  | cons _ _ _ iha =>
    exact List.cons_subset_cons _ fun x hx => List.mem_append_right _ (iha hx)

/-- A walk meets the kids of what it meets. -/
theorem kids_subset (h : Walk kids as l) {x : α} (hx : x ∈ l) : kids x ⊆ l := by
  induction h with
  | nil => simp at hx
  | cons hb _ ihb iha =>
    intro y hy
    refine List.mem_cons_of_mem _ ?_
    rcases List.mem_cons.1 hx with rfl | hx
    · exact List.mem_append_left _ (hb.subset hy)
    · rcases List.mem_append.1 hx with hx | hx
      · exact List.mem_append_left _ (ihb hx hy)
      · exact List.mem_append_right _ (iha hx hy)

end Walk

/-! ## Walks of bounded depth -/

/-- What the recursion meets down to a depth. -/
def preorder (kids : α → List α) : Nat → α → List α
  | 0, _ => []
  | n + 1, a => a :: (kids a).flatMap (preorder kids n)

/-- Whether everything that the recursion meets is less deep than given. -/
def Shallow (kids : α → List α) : Nat → α → Prop
  | 0, _ => False
  | n + 1, a => ∀ b ∈ kids a, Shallow kids n b

variable {kids : α → List α}

/-- **In a shallow place the bounded recursion is the whole walk.** -/
theorem walk_preorder {n : Nat} {a : α} (h : Shallow kids n a) :
    Walk kids [a] (preorder kids n a) := by
  induction n generalizing a with
  | zero => exact h.elim
  | succ n ih =>
    have hall : ∀ {as : List α}, (∀ b ∈ as, Shallow kids n b) →
        Walk kids as (as.flatMap (preorder kids n)) := by
      intro as has
      induction as with
      | nil => exact .nil
      | cons b as ihas =>
        rw [List.forall_mem_cons] at has
        exact (ih has.1).append (ihas has.2)
    have hwalk : Walk kids [a] (a :: ((kids a).flatMap (preorder kids n) ++ [])) :=
      .cons (hall h) .nil
    rw [List.append_nil] at hwalk
    exact hwalk

theorem shallow_map_iff {kids' : β → List β} {f : α → β}
    (hf : ∀ a, kids' (f a) = (kids a).map f) {n : Nat} {a : α} :
    Shallow kids' n (f a) ↔ Shallow kids n a := by
  induction n generalizing a with
  | zero => exact Iff.rfl
  | succ n ih => simp only [Shallow, hf, List.forall_mem_map, ih]

/-- A place that is not shallow is the start of a long chain of kids. -/
theorem exists_chain_of_not_shallow {n : Nat} {a : α} (h : ¬Shallow kids n a) :
    ∃ chain : List α, chain.length = n ∧ List.IsChain (fun x y => y ∈ kids x) (a :: chain) := by
  induction n generalizing a with
  | zero => exact ⟨[], rfl, .singleton a⟩
  | succ n ih =>
    simp only [Shallow, not_forall] at h
    obtain ⟨b, hb, hn⟩ := h
    obtain ⟨chain, hlength, hchain⟩ := ih hn
    exact ⟨b :: chain, by rw [List.length_cons, hlength], .cons_cons hb hchain⟩

/-- What the recursion meets from an element never leads back to itself. -/
def Acyclic (kids : α → List α) (a : α) : Prop :=
  ∀ x, Relation.ReflTransGen (fun x y => y ∈ kids x) a x →
    ¬Relation.TransGen (fun x y => y ∈ kids x) x x

/-- **Without a cycle, the depth is bounded by the number of elements** that can be kids. -/
theorem shallow_of_acyclic {all : List α} {a : α} (hall : ∀ x, kids x ⊆ all)
    (h : Acyclic kids a) : Shallow kids (all.length + 1) a := by
  by_contra hn
  obtain ⟨chain, hlength, hchain⟩ := exists_chain_of_not_shallow hn
  -- Along a chain, every element leads to all later ones; so one that came twice would be a cycle.
  have hpairs : (a :: chain).Pairwise (Relation.TransGen fun x y => y ∈ kids x) :=
    (hchain.imp fun _ _ h => Relation.TransGen.single h).pairwise
  rw [List.pairwise_cons] at hpairs
  have hnodup : chain.Nodup := by
    refine hpairs.2.imp_of_mem fun {x y} hx _ hxy => ?_
    rintro rfl
    exact h x (hpairs.1 x hx).to_reflTransGen hxy
  have hsub : chain ⊆ all := by
    intro x hx
    obtain ⟨y, -, hy⟩ := Relation.TransGen.tail'_iff.1 (hpairs.1 x hx)
    exact hall y hy
  have hle := (hnodup.subperm hsub).length_le
  omega

/-! ## Nesting -/

/-- In a list whose elements are indented, one element stands directly below another: it comes
later, is indented by one step more, and what is between them is indented more than the first. -/
def Nested (indent : α → Nat) (step : Nat) (l : List α) (a b : α) : Prop :=
  ∃ before between after, l = before ++ a :: (between ++ b :: after) ∧
    indent b = indent a + step ∧ ∀ x ∈ between, indent a < indent x

variable {indent : α → Nat} {step : Nat} {l : List α} {a a' b : α}

namespace Nested

theorem mem_left (h : Nested indent step l a b) : a ∈ l := by
  obtain ⟨before, between, after, rfl, -, -⟩ := h
  simp

theorem mem_right (h : Nested indent step l a b) : b ∈ l := by
  obtain ⟨before, between, after, rfl, -, -⟩ := h
  simp

theorem indent_eq (h : Nested indent step l a b) : indent b = indent a + step := by
  obtain ⟨_, _, _, -, hb, -⟩ := h
  exact hb

/-- Nesting inside a part of a list is nesting in the whole list. -/
theorem infix_left (h : Nested indent step l a b) (l' m : List α) :
    Nested indent step (l' ++ (l ++ m)) a b := by
  obtain ⟨before, between, after, rfl, hb, hbetween⟩ := h
  refine ⟨l' ++ before, between, after ++ m, ?_, hb, hbetween⟩
  simp only [List.append_assoc, List.cons_append]

/-- In a list without repetitions, an element stands directly below at most one other. -/
theorem unique (hl : l.Nodup) (h : Nested indent step l a b) (h' : Nested indent step l a' b) :
    a = a' := by
  obtain ⟨before, between, after, rfl, hb, hbetween⟩ := h
  obtain ⟨before', between', after', heq, hb', hbetween'⟩ := h'
  -- What comes before the lower element is the same in both readings.
  have hfront : before ++ a :: between = before' ++ a' :: between' := by
    have hl' : (before ++ a :: between ++ b :: after).Nodup := by simpa using hl
    have hsplit : before ++ a :: between ++ b :: after = before' ++ a' :: between' ++ b :: after' :=
      by simpa using heq
    obtain ⟨-, hafter, hdisjoint⟩ := List.nodup_append.1 hl'
    have hnot : b ∉ before ++ a :: between := fun hm => hdisjoint b hm b List.mem_cons_self rfl
    exact ((List.append_cons_inj_of_notMem hnot (List.nodup_cons.1 hafter).1).1 hsplit).1
  -- If one of the upper elements came before the other, the later one would be indented more.
  rcases List.append_eq_append_iff.1 hfront with ⟨gap, -, hgap⟩ | ⟨gap, -, hgap⟩
  · cases gap with
    | nil => exact (List.cons.inj hgap).1
    | cons x gap =>
      obtain ⟨-, rfl⟩ := List.cons.inj hgap
      have hlt := hbetween a' (by simp)
      omega
  · cases gap with
    | nil => exact (List.cons.inj hgap).1.symm
    | cons x gap =>
      obtain ⟨-, rfl⟩ := List.cons.inj hgap
      have hlt := hbetween' a (by simp)
      omega

end Nested

namespace Walk

variable {as : List α}

/-- If kids are indented by one step, then each element but the first ones stands directly below
one whose kid it is. -/
theorem exists_nested (hindent : ∀ a, ∀ b ∈ kids a, indent b = indent a + step) (hstep : 0 < step)
    (h : Walk kids as l) (hb : b ∈ l) (hfirst : b ∉ as) :
    ∃ a, b ∈ kids a ∧ Nested indent step l a b := by
  induction h with
  | nil => simp at hb
  | @cons top rest below after hbelow _ ihb iha =>
    rw [List.mem_cons, not_or] at hfirst
    rcases List.mem_append.1 ((List.mem_cons.1 hb).resolve_left hfirst.1) with hb | hb
    · by_cases hkid : b ∈ kids top
      · -- Everything below the top is indented more than the top.
        have hdeep : ∀ x ∈ below, indent top < indent x := by
          refine hbelow.forall_mem (fun x hx y hy => ?_) fun x hx => ?_
          · rw [hindent x y hy]
            omega
          · rw [hindent top x hx]
            omega
        obtain ⟨between, later, rfl⟩ := List.append_of_mem hb
        refine ⟨top, hkid, [], between, later ++ after, by simp, hindent top b hkid, ?_⟩
        exact fun x hx => hdeep x (List.mem_append_left _ hx)
      · obtain ⟨a, hkid, hnested⟩ := ihb hb hkid
        exact ⟨a, hkid, hnested.infix_left [top] after⟩
    · obtain ⟨a, hkid, hnested⟩ := iha hb hfirst.2
      refine ⟨a, hkid, ?_⟩
      have hinside := hnested.infix_left (top :: below) []
      rwa [List.append_nil] at hinside

/-- **Nesting is what the kids are**, in a walk from one element that meets nothing twice and in
which no two elements have a kid in common. -/
theorem nested_iff (hindent : ∀ a, ∀ b ∈ kids a, indent b = indent a + step) (hstep : 0 < step)
    {top : α} (h : Walk kids [top] l) (hl : l.Nodup)
    (hkids : ∀ a ∈ l, ∀ a' ∈ l, ∀ b, b ∈ kids a → b ∈ kids a' → a = a') (ha : a ∈ l) :
    Nested indent step l a b ↔ b ∈ kids a := by
  have htop : ∀ x ∈ l, indent top ≤ indent x := by
    refine h.forall_mem (fun x hx y hy => ?_) (by simp)
    rw [hindent x y hy]
    omega
  -- Something above indents an element more than the top.
  have hnot : indent b = indent a + step → b ∉ [top] := by
    intro hb hmem
    obtain rfl := List.mem_singleton.1 hmem
    have := htop a ha
    omega
  constructor
  · intro hn
    obtain ⟨a', hkid, hn'⟩ := h.exists_nested hindent hstep hn.mem_right (hnot hn.indent_eq)
    rwa [hn.unique hl hn']
  · intro hkid
    have hb : b ∈ l := h.kids_subset ha hkid
    obtain ⟨a', hkid', hn⟩ := h.exists_nested hindent hstep hb (hnot (hindent a b hkid))
    rwa [hkids a ha a' hn.mem_left b hkid hkid']

end Walk

end CrateAtlas
