import CrateAtlas.Proofs.OutlineReading

/-!
# What a written path tells

Paths are compared as segments and ordered as texts, and everything that lists modules relies on the
two agreeing.  They agree as far as a written path tells which path it is, and that is a question of
reading it back.

* `parse_render_iff` — **a path is read back** unless it has a single, empty name or its first name
  is that of the root.  (`parse_render` is the one direction; here it is shown that nothing else is
  read back.)
* `render_parse_iff` — **a text is written back** unless it is empty or starts with the name of the
  root and `::`.  No condition on colons is needed here: cutting a text and joining the pieces gives
  the text, wherever the cuts are (`intercalate_cut`).

So written forms tell `Faithful` paths apart, their order is a strict total order, and a graph of
such paths lists its modules in strictly increasing order.
-/

set_option autoImplicit false

namespace CrateAtlas

namespace ModulePath

variable {p q : ModulePath}

/-- No name on the path has a colon in it. -/
def NoColons (p : ModulePath) : Prop := ∀ name ∈ p.segments, ':' ∉ name.toList

/-- **A path that its written form tells**: it is not a single empty name, and its first name is not
that of the root. -/
structure Faithful (p : ModulePath) : Prop where
  noColons : p.NoColons
  not_empty : p.segments ≠ [""]
  not_root : p.segments.head? ≠ some rootName

/-! ## Reading a path back -/

theorem pieces_rootName : pieces rootName = [rootName] := rfl

/-- A text that is not empty is read by its pieces, and the name of the root is dropped in front. -/
theorem parse_eq {text first : String} {rest : List String} (h : text ≠ "")
    (hp : pieces text = first :: rest) :
    parse text = if first = rootName then ⟨rest⟩ else ⟨first :: rest⟩ := by
  by_cases hroot : text = rootName
  · subst hroot
    obtain ⟨rfl, rfl⟩ := List.cons.inj (pieces_rootName.symm.trans hp)
    rw [if_pos rfl]
    rfl
  · rw [parse, if_neg (by simp [h, hroot]), hp]

theorem parse_render_of_empty (h : p.segments = [""]) : parse p.render = root := by
  have hrender : p.render = "" := by
    rw [render, h]
    rfl
  rw [hrender]
  rfl

theorem parse_render_of_rootName {rest : List String} (hp : p.NoColons)
    (h : p.segments = rootName :: rest) : parse p.render = ⟨rest⟩ := by
  have hpieces : pieces p.render = rootName :: rest :=
    h ▸ pieces_render (by simp [h]) hp
  have hne : p.render ≠ "" := by
    intro hempty
    rw [hempty] at hpieces
    exact absurd (List.cons.inj hpieces).1 (by decide)
  rw [parse_eq hne hpieces, if_pos rfl]

theorem parse_render_iff (hp : p.NoColons) : parse p.render = p ↔ p.Faithful := by
  constructor
  · intro h
    refine ⟨hp, fun hempty => ?_, fun hroot => ?_⟩
    · rw [parse_render_of_empty hempty] at h
      rw [← h] at hempty
      cases hempty
    · obtain ⟨rest, hsegments⟩ := List.head?_eq_some_iff.1 hroot
      rw [parse_render_of_rootName hp hsegments] at h
      rw [← h] at hsegments
      exact List.cons_ne_self _ _ hsegments.symm
  · exact fun h => parse_render h.noColons h.not_root h.not_empty

/-! ## Writing a text back -/

theorem cut_ne_nil (segment cs : List Char) : cut segment cs ≠ [] := by
  fun_induction cut segment cs <;> simp_all

/-- The pieces of a text, joined again, are the text. -/
theorem intercalate_cut (segment cs : List Char) :
    [':', ':'].intercalate (cut segment cs) = segment.reverse ++ cs := by
  fun_induction cut segment cs with
  | case1 segment => simp
  | case2 segment cs ih =>
    obtain ⟨first, rest, hrest⟩ := List.exists_cons_of_ne_nil (cut_ne_nil [] cs)
    rw [hrest] at ih ⊢
    rw [List.intercalate_cons_cons, ih]
    simp
  | case3 segment c cs _ ih => simpa using ih

theorem intercalate_pieces (text : String) : "::".intercalate (pieces text) = text := by
  rw [← String.toList_inj, String.toList_intercalate, pieces, List.map_map]
  simpa using intercalate_cut [] text.toList

/-- What comes before the first `::` is a piece. -/
theorem pieces_of_prefix {name : String} (hname : ':' ∉ name.toList) {text : String}
    (h : name.toList ++ [':', ':'] <+: text.toList) : ∃ rest, pieces text = name :: rest := by
  obtain ⟨cs, hcs⟩ := h
  refine ⟨(cut [] cs).map String.ofList, ?_⟩
  rw [pieces, ← hcs, List.append_assoc, cut_append hname]
  simp [cut]

theorem render_parse_iff (text : String) :
    (parse text).render = text ↔
      text ≠ "" ∧ ¬rootName.toList ++ [':', ':'] <+: text.toList := by
  by_cases hempty : text = ""
  · subst hempty
    simp [parse, render, root, rootName]
  obtain ⟨first, rest, hpieces⟩ : ∃ first rest, pieces text = first :: rest :=
    List.exists_cons_of_ne_nil (by simpa [pieces] using cut_ne_nil [] text.toList)
  have htext : "::".intercalate (first :: rest) = text := hpieces ▸ intercalate_pieces text
  rw [parse_eq hempty hpieces]
  by_cases hfirst : first = rootName
  · subst hfirst
    rw [if_pos rfl]
    by_cases hrest : rest = []
    · subst hrest
      rw [String.intercalate_singleton] at htext
      subst htext
      exact iff_of_true rfl ⟨hempty, by decide⟩
    · have hchars : text.toList
          = (rootName.toList ++ [':', ':']) ++ ("::".intercalate rest).toList := by
        rw [← htext, String.intercalate_cons_of_ne_nil hrest]
        simp
      rw [render_of_ne_nil hrest]
      refine iff_of_false (fun h => ?_) fun h => h.2 (hchars ▸ List.prefix_append _ _)
      have hlength := congrArg List.length hchars
      rw [h, List.length_append, List.length_append] at hlength
      simp only [List.length_cons] at hlength
      omega
  · rw [if_neg hfirst, render_of_ne_nil (by simp), htext]
    refine iff_of_true rfl ⟨hempty, fun hprefix => ?_⟩
    obtain ⟨rest', hroot⟩ := pieces_of_prefix (by decide) hprefix
    rw [hroot] at hpieces
    exact hfirst (List.cons.inj hpieces).1.symm

/-! ## Order -/

/-- Written forms tell faithful paths apart. -/
theorem Faithful.render_inj (hp : p.Faithful) (hq : q.Faithful) : p.render = q.render ↔ p = q := by
  refine ⟨fun h => ?_, fun h => h ▸ rfl⟩
  rw [← (parse_render_iff hp.noColons).2 hp, h, (parse_render_iff hq.noColons).2 hq]

/-- Exactly one of three things holds. -/
def ExactlyOne (a b c : Prop) : Prop := a ∧ ¬b ∧ ¬c ∨ ¬a ∧ b ∧ ¬c ∨ ¬a ∧ ¬b ∧ c

theorem Faithful.exactlyOne (hp : p.Faithful) (hq : q.Faithful) :
    ExactlyOne (p.before q = true) (p = q) (q.before p = true) := by
  rw [ExactlyOne, before_iff, before_iff, ← hp.render_inj hq]
  rcases lt_trichotomy p.render q.render with h | h | h
  · exact .inl ⟨h, h.ne, h.asymm⟩
  · exact .inr (.inl ⟨h.not_lt, h, h.not_gt⟩)
  · exact .inr (.inr ⟨h.asymm, h.ne', h⟩)

theorem before_irrefl (p : ModulePath) : ¬p.before p = true := by
  rw [before_iff]
  exact lt_irrefl _

theorem before_trans {r : ModulePath} (h : p.before q = true) (h' : q.before r = true) :
    p.before r = true := by
  rw [before_iff] at h h' ⊢
  exact h.trans h'

end ModulePath

namespace ModuleGraph

open ModulePath (Faithful)

variable {g : ModuleGraph}

/-- Modules with faithful paths are listed in strictly increasing order. -/
theorem WellFormed.pairwise_before (h : WellFormed g)
    (hg : ∀ path, g.contains path = true → path.Faithful) :
    g.sortedModules.Pairwise fun m n => m.path.before n.path = true := by
  have hnodup : (g.sortedModules.map Module.path).Nodup :=
    (g.sortedModules_perm.map Module.path).nodup_iff.2 h.nodup_paths
  have hne := List.pairwise_map.1 hnodup
  refine List.Pairwise.imp_of_mem ?_ (g.pairwise_sortedModules.and hne)
  intro m n hm hn ⟨hle, hpath⟩
  have hfaithful : ∀ m ∈ g.sortedModules, m.path.Faithful := fun m hm =>
    hg _ (contains_iff.2 ⟨m, g.sortedModules_perm.mem_iff.1 hm, rfl⟩)
  rw [ModulePath.before_iff]
  exact lt_of_le_of_ne hle (mt ((hfaithful m hm).render_inj (hfaithful n hn)).1 hpath)

/-- **Written paths are faithful names.**  Without colons in its names, a path is read back exactly
if it is not a single empty name and does not start with the name of the root; a text is written
back exactly if it is not empty and does not start with that name and `::`.  So the written form
tells which of these paths it is, the order of written forms is a strict total order on them, and a
graph of such paths lists each of its modules once, in strictly increasing order. -/
theorem written_paths_faithful :
    (∀ p : ModulePath, (∀ name ∈ p.segments, ':' ∉ name.toList) →
      (ModulePath.parse p.render = p ↔
        p.segments ≠ [""] ∧ p.segments.head? ≠ some "crate")) ∧
    (∀ text : String, (ModulePath.parse text).render = text ↔
      text ≠ "" ∧ ¬"crate::".toList <+: text.toList) ∧
    (∀ p q : ModulePath, p.Faithful → q.Faithful → p.render = q.render → p = q) ∧
    ((∀ p : ModulePath, ¬p.before p = true) ∧
      (∀ p q r : ModulePath, p.before q = true → q.before r = true → p.before r = true) ∧
      ∀ p q : ModulePath, p.Faithful → q.Faithful →
        ModulePath.ExactlyOne (p.before q = true) (p = q) (q.before p = true)) ∧
    ∀ unit calls, (∀ path, ((empty unit).run calls).contains path = true → path.Faithful) →
      (∀ m, m ∈ ((empty unit).run calls).sortedModules ↔
        ((empty unit).run calls).module? m.path = some m) ∧
      ((empty unit).run calls).sortedModules.Nodup ∧
      ((empty unit).run calls).sortedModules.Pairwise fun m n => m.path.before n.path = true := by
  refine ⟨fun p hp => ?_, ModulePath.render_parse_iff, fun p q hp hq => (hp.render_inj hq).1,
    ⟨ModulePath.before_irrefl, fun p q r => ModulePath.before_trans,
      fun p q hp hq => hp.exactlyOne hq⟩, fun unit calls hfaithful => ?_⟩
  · rw [ModulePath.parse_render_iff hp]
    exact ⟨fun h => ⟨h.not_empty, h.not_root⟩, fun h => ⟨hp, h.1, h.2⟩⟩
  · have hwf : WellFormed ((empty unit).run calls) := (WellFormed.empty unit).run calls
    refine ⟨fun m => ?_, ?_, hwf.pairwise_before hfaithful⟩
    · rw [module?_eq_some_iff hwf.nodup_paths, (sortedModules_perm _).mem_iff]
      simp
    · exact (sortedModules_perm _).nodup_iff.2 hwf.nodup_modules

/-- A graph to which the root, a module and one below it were added, the last one first. -/
def nestedCalls : List Call :=
  [.addModule ⟨⟨["a", "b"]⟩, .inline, none⟩, .addModule ⟨⟨["a"]⟩, .inline, none⟩,
    .addModule ⟨.root, .root, none⟩]

theorem faithful_of_nestedCalls {path : ModulePath}
    (h : ((empty "demo").run nestedCalls).contains path = true) : path.Faithful := by
  have hmodules : ((empty "demo").run nestedCalls).paths = [⟨["a", "b"]⟩, ⟨["a"]⟩, .root] := rfl
  have hmem := mem_paths.2 h
  rw [hmodules] at hmem
  simp only [List.mem_cons, List.not_mem_nil, or_false] at hmem
  rcases hmem with rfl | rfl | rfl
  · exact ⟨by simp [ModulePath.NoColons], by decide, by decide⟩
  · exact ⟨by simp [ModulePath.NoColons], by decide, by decide⟩
  · exact ⟨by simp [ModulePath.NoColons, ModulePath.root], by decide, by decide⟩

/-- The three modules are listed once each, in strictly increasing order. -/
theorem listing_of_nestedCalls :
    ((empty "demo").run nestedCalls).module? ⟨["a"]⟩ = some ⟨⟨["a"]⟩, .inline, none⟩ ∧
    ⟨⟨["a"]⟩, .inline, none⟩ ∈ ((empty "demo").run nestedCalls).sortedModules ∧
    ((empty "demo").run nestedCalls).sortedModules.Pairwise fun m n =>
      m.path.before n.path = true := by
  obtain ⟨-, -, -, -, hlist⟩ := written_paths_faithful
  obtain ⟨hmem, -, hpairwise⟩ := hlist "demo" nestedCalls fun _ => faithful_of_nestedCalls
  have hmodule : ((empty "demo").run nestedCalls).module? ⟨["a"]⟩
      = some ⟨⟨["a"]⟩, .inline, none⟩ := rfl
  exact ⟨hmodule, (hmem _).2 hmodule, hpairwise⟩

end ModuleGraph

end CrateAtlas
