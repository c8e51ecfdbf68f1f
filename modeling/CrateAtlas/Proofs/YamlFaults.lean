import CrateAtlas.Yaml

/-!
# Faults of YAML texts

The value of a YAML text is put together from the inside out, but its faults are met from the
outside in, depth by depth.  This file shows that the two views agree.

* `Node.flatten_faults_eq_nil_iff`: a node has a value exactly if there is no fault at any depth.
  The proof follows the two recursions side by side, so there is one statement for each of them; for
  the entries of a mapping it is about those merged into it and its own together.
* So the order of faults does not change which texts have a value (`Node.result_eq_ok_iff`), and it
  says which fault counts if there is none (`Node.result_eq_error_iff`).
-/

set_option autoImplicit false

namespace CrateAtlas.Yaml

/-! ## Keys -/

theorem isKey_of_momentOf {text : String} {v : Value} (h : momentOf text = .ok v) :
    v.isKey = true := by
  simp only [momentOf, bind, Except.bind, pure, Except.pure, throw, throwThe,
    MonadExceptOf.throw] at h
  repeat' split at h
  all_goals cases h
  all_goals rfl

/-- The values of scalars can be keys. -/
theorem isKey_of_scalarValue {tag : Tag} {text : String} {v : Value}
    (h : scalarValue tag text = .ok v) : tag.isCollection = false ∧ v.isKey = true := by
  cases tag with
  | null | text =>
    cases h
    exact ⟨rfl, rfl⟩
  | bool | int | float =>
    simp only [scalarValue, Except.map] at h
    split at h <;> cases h
    exact ⟨rfl, rfl⟩
  | timestamp => exact ⟨rfl, isKey_of_momentOf h⟩
  | binary =>
    rw [scalarValue] at h
    repeat' split at h
    all_goals cases h
    exact ⟨rfl, rfl⟩
  | _ => cases h

/-- Collections, and they alone, have values that can be no keys. -/
theorem Node.isKey_of_value {n : Node} {v : Value} (h : n.value = .ok v) :
    v.isKey = !n.tag.isCollection := by
  have hscalar : ∀ {tag : Tag} {text : String}, scalarValue tag text = .ok v →
      v.isKey = !tag.isCollection := by
    intro tag text h
    obtain ⟨htag, hv⟩ := isKey_of_scalarValue h
    rw [htag, hv, Bool.not_false]
  cases n with
  | scalar tag text =>
    rw [value] at h
    exact hscalar h
  | sequence tag items =>
    cases tag with
    | sequence | orderedMapping | pairs =>
      simp only [value, bind, Except.bind, pure, Except.pure] at h
      split at h <;> cases h
      rfl
    | _ => simp [value] at h
  | mapping tag entries =>
    cases tag with
    | mapping | set =>
      simp only [value, bind, Except.bind, pure, Except.pure] at h
      split at h <;> cases h
      rfl
    | _ =>
      simp only [value] at h
      split at h
      · exact hscalar h
      · cases h

/-! ## No fault is lost -/

theorem faultOf_eq_nil_iff {α : Type} {x : Except Fault α} :
    faultOf x = [] ↔ ∃ a, x = .ok a := by
  cases x <;> simp [faultOf]

theorem exists_bind_eq_ok_iff {α β : Type} {x : Except Fault α} {next : α → Except Fault β} :
    (∃ b, x >>= next = .ok b) ↔ ∃ a, x = .ok a ∧ ∃ b, next a = .ok b := by
  cases x <;> simp [bind, Except.bind]

theorem exists_pure_eq_ok {α : Type} (a : α) :
    (∃ b, (pure a : Except Fault α) = .ok b) ↔ True := by
  simp [pure, Except.pure]

theorem flatten_beside_eq_nil_iff {fs gs : List (List Fault)} :
    (beside fs gs).flatten = [] ↔ fs.flatten = [] ∧ gs.flatten = [] := by
  fun_induction beside fs gs with
  | case1 => simp
  | case2 => simp
  | case3 f fs g gs ih =>
    simp only [List.flatten_cons, List.append_eq_nil_iff, ih]
    exact and_and_and_comm

theorem EntryFaults.flatten_all_eq_nil_iff {x : EntryFaults} :
    x.all.flatten = [] ↔ x.joining = [] ∧ x.merged.flatten = [] ∧ x.own.flatten = [] := by
  rw [all, flatten_beside_eq_nil_iff, flatten_beside_eq_nil_iff, List.flatten_singleton]

theorem keyFaults_eq_nil_iff {k : Node}
    (h : k.faults.flatten = [] ↔ ∃ v, k.value = .ok v) :
    (keyFaults k k.faults).flatten = [] ↔ ∃ v, keyOf k k.value = .ok v := by
  rw [keyFaults.eq_def, keyOf.eq_def]
  split
  · simp
  · rw [exists_bind_eq_ok_iff]
    cases htag : k.tag.isCollection with
    | true =>
      refine iff_of_false (by simp) ?_
      rintro ⟨v, hv, hkey⟩
      rw [Node.isKey_of_value hv, htag] at hkey
      simp at hkey
    | false =>
      rw [if_neg (by decide), h]
      refine ⟨fun ⟨v, hv⟩ => ⟨v, hv, v, ?_⟩, fun ⟨v, hv, _⟩ => ⟨v, hv⟩⟩
      rw [Node.isKey_of_value hv, htag, Bool.not_false, if_pos rfl]
      rfl

mutual

/-- **A node has a value exactly if it has no fault**, however deep. -/
theorem Node.flatten_faults_eq_nil_iff : (n : Node) →
    (n.faults.flatten = [] ↔ ∃ v, n.value = .ok v)
  | .scalar tag text => by
    rw [Node.faults, Node.value]
    cases htag : tag.isCollection with
    | true =>
      refine iff_of_false (by simp) ?_
      rintro ⟨v, hv⟩
      cases htag.symm.trans (isKey_of_scalarValue hv).1
    | false =>
      rw [if_neg (by decide), List.flatten_singleton, faultOf_eq_nil_iff]
  | .sequence tag items => by
    cases tag with
    | sequence =>
      rw [Node.faults, Node.value, exists_bind_eq_ok_iff, List.flatten_cons, List.nil_append,
        flatten_itemFaults_eq_nil_iff items]
      simp [pure, Except.pure]
    | orderedMapping | pairs =>
      rw [Node.faults, Node.value, exists_bind_eq_ok_iff, List.flatten_cons, List.nil_append,
        flatten_pairFaults_eq_nil_iff items]
      simp [pure, Except.pure]
    | _ => simp [Node.faults, Node.value, Tag.isCollection]
  | .mapping tag entries => by
    cases tag with
    | mapping | set =>
      rw [Node.faults, Node.value, exists_bind_eq_ok_iff, List.flatten_cons, List.nil_append,
        entryFaults_eq_nil_iff entries]
      simp [pure, Except.pure]
    | _ => 
      simp only [Node.faults, Node.value, Tag.isCollection]
      cases defaultText? entries <;> simp [faultOf_eq_nil_iff, scalarValue]

theorem flatten_itemFaults_eq_nil_iff : (ns : List Node) →
    ((itemFaults ns).flatten = [] ↔ ∃ vs, itemValues ns = .ok vs)
  | [] => by simp [itemFaults, itemValues]
  | n :: ns => by
    rw [itemFaults, flatten_beside_eq_nil_iff, n.flatten_faults_eq_nil_iff,
      flatten_itemFaults_eq_nil_iff ns, itemValues]
    simp only [exists_bind_eq_ok_iff, exists_pure_eq_ok, and_true, exists_and_right]

theorem flatten_pairFaults_eq_nil_iff : (ns : List Node) →
    ((pairFaults ns).flatten = [] ↔ ∃ vs, pairValues ns = .ok vs)
  | [] => by simp [pairFaults, pairValues]
  | .mapping _ [(k, v)] :: ns => by
    rw [pairFaults, flatten_beside_eq_nil_iff, flatten_beside_eq_nil_iff,
      k.flatten_faults_eq_nil_iff, v.flatten_faults_eq_nil_iff, flatten_pairFaults_eq_nil_iff ns,
      pairValues]
    simp only [exists_bind_eq_ok_iff, exists_pure_eq_ok, and_true, exists_and_right, and_assoc]
  | .mapping _ [] :: ns => by simp [pairFaults, pairValues]
  | .mapping _ (_ :: _ :: _) :: ns => by simp [pairFaults, pairValues]
  | .scalar .. :: ns => by simp [pairFaults, pairValues]
  | .sequence .. :: ns => by simp [pairFaults, pairValues]

theorem entryFaults_eq_nil_iff : (es : List (Node × Node)) →
    ((entryFaults es).all.flatten = [] ↔ ∃ x, entryValues es = .ok x)
  | [] => by simp [entryFaults, entryValues, EntryFaults.all, beside]
  | (k, v) :: rest => by
    have hrest := entryFaults_eq_nil_iff rest
    rw [EntryFaults.flatten_all_eq_nil_iff] at hrest ⊢
    rw [entryFaults, entryValues]
    split
    · have hmerged := mergedFaults_eq_nil_iff v
      simp only [exists_bind_eq_ok_iff, exists_pure_eq_ok, and_true, exists_and_right,
        ← hmerged, ← hrest, List.append_eq_nil_iff, flatten_beside_eq_nil_iff]
      exact ⟨fun ⟨⟨hj, hj'⟩, ⟨hm, hm'⟩, ho⟩ => ⟨⟨hj, hm⟩, hj', hm', ho⟩,
        fun ⟨⟨hj, hm⟩, hj', hm', ho⟩ => ⟨⟨hj, hj'⟩, ⟨hm, hm'⟩, ho⟩⟩
    · have hk := keyFaults_eq_nil_iff k.flatten_faults_eq_nil_iff
      have hv := v.flatten_faults_eq_nil_iff
      simp only [exists_bind_eq_ok_iff, exists_pure_eq_ok, and_true, exists_and_right,
        ← hk, ← hv, ← hrest, flatten_beside_eq_nil_iff]
      exact ⟨fun ⟨hj, hm, ⟨hk, hv⟩, ho⟩ => ⟨hk, hv, hj, hm, ho⟩,
        fun ⟨hk, hv, hj, hm, ho⟩ => ⟨hj, hm, ⟨hk, hv⟩, ho⟩⟩

theorem mergedFaults_eq_nil_iff : (n : Node) →
    ((mergedFaults n).1 = [] ∧ (mergedFaults n).2.flatten = [] ↔
      ∃ es, mergedEntries n = .ok es)
  | .mapping _ entries => by
    have h := entryFaults_eq_nil_iff entries
    rw [EntryFaults.flatten_all_eq_nil_iff] at h
    rw [mergedFaults, mergedEntries, exists_bind_eq_ok_iff, flatten_beside_eq_nil_iff, h]
    simp [pure, Except.pure]
  | .sequence _ items => by
    rw [mergedFaults, mergedEntries]
    exact mergedItemFaults_eq_nil_iff items
  | .scalar .. => by simp [mergedFaults, mergedEntries]

theorem mergedItemFaults_eq_nil_iff : (ns : List Node) →
    ((mergedItemFaults ns).1 = [] ∧ (mergedItemFaults ns).2.flatten = [] ↔
      ∃ es, mergedItems ns = .ok es)
  | [] => by simp [mergedItemFaults, mergedItems]
  | .mapping _ entries :: ns => by
    have h := entryFaults_eq_nil_iff entries
    have hns := mergedItemFaults_eq_nil_iff ns
    rw [EntryFaults.flatten_all_eq_nil_iff] at h
    rw [mergedItemFaults, mergedItems]
    simp only [exists_bind_eq_ok_iff, exists_pure_eq_ok, and_true, exists_and_right,
      ← h, ← hns, List.append_eq_nil_iff, flatten_beside_eq_nil_iff]
    exact ⟨fun ⟨⟨hj, hj'⟩, hl, hm, ho⟩ => ⟨⟨hj, hm, ho⟩, hj', hl⟩,
      fun ⟨⟨hj, hm, ho⟩, hj', hl⟩ => ⟨⟨hj, hj'⟩, hl, hm, ho⟩⟩
  | .scalar .. :: ns => by simp [mergedItemFaults, mergedItems]
  | .sequence .. :: ns => by simp [mergedItemFaults, mergedItems]

end

/-! ## Which fault counts -/

/-- The first of several faults by their depth. -/
theorem head?_flatten_eq_some_iff {levels : List (List Fault)} {f : Fault} :
    levels.flatten.head? = some f ↔
      ∃ before fs later, levels = before ++ (f :: fs) :: later ∧ ∀ gs ∈ before, gs = [] := by
  induction levels with
  | nil => simp
  | cons level levels ih =>
    cases level with
    | nil =>
      rw [List.flatten_cons, List.nil_append, ih]
      constructor
      · rintro ⟨before, fs, later, rfl, hbefore⟩
        exact ⟨[] :: before, fs, later, rfl, by simpa using hbefore⟩
      · rintro ⟨before, fs, later, heq, hbefore⟩
        cases before with
        | nil => cases heq
        | cons gs before =>
          cases heq
          exact ⟨before, fs, later, rfl, fun gs hgs => hbefore gs (List.mem_cons_of_mem _ hgs)⟩
    | cons g gs =>
      constructor
      · intro h
        cases h
        exact ⟨[], gs, levels, rfl, by simp⟩
      · rintro ⟨before, fs, later, heq, hbefore⟩
        cases before with
        | nil =>
          cases heq
          rfl
        | cons gs before =>
          cases heq
          cases hbefore _ List.mem_cons_self

/-- **The order of faults does not change which texts have a value**, nor the value. -/
theorem Node.result_eq_ok_iff {n : Node} {v : Value} : n.result = .ok v ↔ n.value = .ok v := by
  rw [result]
  split
  · rename_i fault later hfaults
    refine iff_of_false (by simp) fun hv => ?_
    have hnone := n.flatten_faults_eq_nil_iff.2 ⟨v, hv⟩
    rw [hfaults] at hnone
    cases hnone
  · rfl

/-- **The fault that counts** is the first of those that lie least deep. -/
theorem Node.result_eq_error_iff {n : Node} {f : Fault} : n.result = .error f ↔
    ∃ before fs later, n.faults = before ++ (f :: fs) :: later ∧ ∀ gs ∈ before, gs = [] := by
  rw [← head?_flatten_eq_some_iff, result]
  split
  · rename_i fault later hfaults
    rw [hfaults, List.head?_cons]
    simp
  · rename_i hfaults
    obtain ⟨v, hv⟩ := n.flatten_faults_eq_nil_iff.1 hfaults
    rw [hfaults, hv]
    simp

end CrateAtlas.Yaml
