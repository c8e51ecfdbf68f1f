import CrateAtlas.Source

/-!
# The first damaged node

A text that does not parse is reported by the first damaged node of its tree.  *First* refers to the
order of the text: a node comes before those below it, and these come one tree after the other
(`nodes`).

The search for that node does not visit them all.  It passes over every child that is neither broken
nor missing, and what makes it right is that **passing over loses nothing**: a node with a damaged
one at or below it says so (`FaultsFlagged`).  Then the search is the one through all nodes
(`firstFault?_eq_find?`).

Nothing is asked of the other nodes.  Where a sound tree is flagged as broken, the search goes down
for nothing and comes back, and it ends at the same node as without the flag
(`GainsFlags.map_firstFault?`).
-/

set_option autoImplicit false

namespace CrateAtlas

namespace Node

/-! ## The nodes of a tree -/

mutual

/-- The nodes of a tree in the order of the text, each before those below it. -/
def nodes : Node → List Node
  | n@⟨_, _, _, _, _, _, _, children⟩ => n :: nodesIn children

/-- The nodes of several trees, one tree after the other. -/
def nodesIn : List Node → List Node
  | [] => []
  | c :: cs => nodes c ++ nodesIn cs

end

theorem nodes_eq (n : Node) : n.nodes = n :: n.children.flatMap nodes := by
  have hin : ∀ cs : List Node, nodesIn cs = cs.flatMap nodes := by
    intro cs
    induction cs with
    | nil => rfl
    | cons c cs ih => rw [nodesIn, ih, List.flatMap_cons]
  cases n
  rw [nodes, hin]

theorem self_mem_nodes (n : Node) : n ∈ n.nodes := by
  rw [nodes_eq]
  exact List.mem_cons_self

theorem mem_nodes_of_child {n c m : Node} (hc : c ∈ n.children) (hm : m ∈ c.nodes) :
    m ∈ n.nodes := by
  rw [nodes_eq]
  exact List.mem_cons_of_mem _ (List.mem_flatMap.2 ⟨c, hc, hm⟩)

/-- **Induction over syntax trees**, from the children of a node to the node. -/
theorem tree_induction {P : Node → Prop} (step : ∀ n : Node, (∀ c ∈ n.children, P c) → P n)
    (n : Node) : P n :=
  step n fun c _ => tree_induction step c
termination_by sizeOf n
decreasing_by exact sizeOf_lt_of_mem_children (by assumption)

/-! ## The search -/

/-- Whether the search looks at a node, if it is the child of another. -/
def isFlagged (n : Node) : Bool := n.broken || n.missing

/-- **What the search relies on**: each node with a damaged node at or below it is flagged. -/
def FaultsFlagged (root : Node) : Prop :=
  ∀ n ∈ root.nodes, (∃ m ∈ n.nodes, m.isFault = true) → n.isFlagged = true

theorem FaultsFlagged.child {n c : Node} (h : n.FaultsFlagged) (hc : c ∈ n.children) :
    c.FaultsFlagged :=
  fun m hm => h m (mem_nodes_of_child hc hm)

/-- There is nothing to find in a tree that is passed over. -/
theorem FaultsFlagged.find?_eq_none {n : Node} (h : n.FaultsFlagged) (hn : n.isFlagged = false) :
    n.nodes.find? isFault = none := by
  rw [List.find?_eq_none]
  intro m hm hfault
  have hflagged : n.isFlagged = true := h n n.self_mem_nodes ⟨m, hm, hfault⟩
  rw [hn] at hflagged
  cases hflagged

/-- A damaged node is found at once, and a sound one sends the search to its children. -/
theorem firstFault?_eq (n : Node) :
    n.firstFault? = if n.isFault then some n else firstFaultIn? n.children := by
  cases n
  simp [firstFault?, isFault]

/-- The search among several trees, if it is right for those that it does not pass over. -/
theorem firstFaultIn?_eq_find? {cs : List Node} (hflagged : ∀ c ∈ cs, c.FaultsFlagged)
    (hcs : ∀ c ∈ cs, c.firstFault? = c.nodes.find? isFault) :
    firstFaultIn? cs = (cs.flatMap nodes).find? isFault := by
  induction cs with
  | nil => rfl
  | cons c cs ih =>
    rw [List.forall_mem_cons] at hflagged hcs
    rw [firstFaultIn?, List.flatMap_cons, List.find?_append, ← ih hflagged.2 hcs.2]
    change (if c.isFlagged then _ else _) = _
    split
    · rw [← hcs.1]
      cases c.firstFault? <;> rfl
    · rename_i hc
      rw [hflagged.1.find?_eq_none (Bool.eq_false_iff.2 hc)]
      rfl

/-- **The search finds the first damaged node of all.** -/
theorem firstFault?_eq_find? {root : Node} (h : root.FaultsFlagged) :
    root.firstFault? = root.nodes.find? isFault := by
  induction root using tree_induction with
  | step n ih =>
    have hbelow : firstFaultIn? n.children = (n.children.flatMap nodes).find? isFault :=
      firstFaultIn?_eq_find? (fun c hc => h.child hc) fun c hc => ih c hc (h.child hc)
    rw [firstFault?_eq, nodes_eq, List.find?_cons, hbelow]
    cases n.isFault <;> rfl

/-- The node is the first damaged one of the tree. -/
def IsFirstFault (root n : Node) : Prop :=
  ∃ before after, root.nodes = before ++ n :: after ∧ n.isFault = true ∧
    ∀ m ∈ before, m.isFault = false

theorem find?_isFault_eq_some_iff {root n : Node} :
    root.nodes.find? isFault = some n ↔ root.IsFirstFault n := by
  rw [List.find?_eq_some_iff_append, IsFirstFault]
  simp only [Bool.not_eq_true']
  constructor
  · rintro ⟨hfault, before, after, hnodes, hbefore⟩
    exact ⟨before, after, hnodes, hfault, hbefore⟩
  · rintro ⟨before, after, hnodes, hfault, hbefore⟩
    exact ⟨hfault, before, after, hnodes, hbefore⟩

theorem find?_isFault_eq_none_iff {root : Node} :
    root.nodes.find? isFault = none ↔ ∀ n ∈ root.nodes, n.isFault = false := by
  simp

/-! ## More flags -/

mutual

/-- The tree with no node flagged as broken. -/
def unflagged : Node → Node
  | ⟨kind, text, named, missing, _, start, field, children⟩ =>
    ⟨kind, text, named, missing, false, start, field, unflaggedIn children⟩

/-- The trees with no node flagged as broken. -/
def unflaggedIn : List Node → List Node
  | [] => []
  | c :: cs => unflagged c :: unflaggedIn cs

end

theorem unflagged_eq (n : Node) :
    n.unflagged = { n with broken := false, children := n.children.map unflagged } := by
  have hin : ∀ cs : List Node, unflaggedIn cs = cs.map unflagged := by
    intro cs
    induction cs with
    | nil => rfl
    | cons c cs ih => rw [unflaggedIn, ih, List.map_cons]
  cases n
  rw [unflagged, hin]

theorem nodes_unflagged (n : Node) : n.unflagged.nodes = n.nodes.map unflagged := by
  induction n using tree_induction with
  | step n ih =>
    have hchildren : n.unflagged.children = n.children.map unflagged := by rw [unflagged_eq]
    rw [nodes_eq, nodes_eq n, hchildren, List.map_cons, List.flatMap_map, List.map_flatMap]
    congr 1
    simp only [List.flatMap_def]
    rw [List.map_congr_left ih]

@[simp] theorem isFault_unflagged (n : Node) : n.unflagged.isFault = n.isFault := by
  rw [unflagged_eq]
  rfl

@[simp] theorem missing_unflagged (n : Node) : n.unflagged.missing = n.missing := by
  rw [unflagged_eq]

@[simp] theorem start_unflagged (n : Node) : n.unflagged.start = n.start := by
  rw [unflagged_eq]

/-- What is wrong at a node has nothing to do with its flag. -/
@[simp] theorem problem_unflagged (n : Node) : n.unflagged.problem = n.problem := by
  rw [unflagged_eq]
  rfl

/-- The same tree with more nodes flagged as broken, whether they are or not. -/
structure GainsFlags (root root' : Node) : Prop where
  same : root'.unflagged = root.unflagged
  kept : ∀ pair ∈ root.nodes.zip root'.nodes, pair.1.broken = true → pair.2.broken = true

namespace GainsFlags

variable {root root' : Node}

theorem map_nodes (h : root.GainsFlags root') :
    root'.nodes.map unflagged = root.nodes.map unflagged := by
  rw [← nodes_unflagged, ← nodes_unflagged, h.same]

/-- The search can rely on a tree with more flags as well. -/
theorem faultsFlagged (h : root.GainsFlags root') (hroot : root.FaultsFlagged) :
    root'.FaultsFlagged := by
  rintro n' hn' ⟨m', hm', hfault⟩
  -- The node stands for one of the first tree, in the same place and with the same nodes below it.
  obtain ⟨i, hi'⟩ := List.mem_iff_getElem?.1 hn'
  have hplaces := congrArg (·[i]?) h.map_nodes
  simp only [List.getElem?_map, hi', Option.map_some] at hplaces
  obtain ⟨n, hi, hn⟩ := Option.map_eq_some_iff.1 hplaces.symm
  have hbelow : m'.unflagged ∈ n.nodes.map unflagged := by
    rw [← nodes_unflagged, hn, nodes_unflagged]
    exact List.mem_map_of_mem hm'
  obtain ⟨m, hm, hmm'⟩ := List.mem_map.1 hbelow
  have hflagged : n.isFlagged = true := by
    refine hroot n (List.mem_iff_getElem?.2 ⟨i, hi⟩) ⟨m, hm, ?_⟩
    rw [← isFault_unflagged, hmm', isFault_unflagged, hfault]
  rw [isFlagged, Bool.or_eq_true] at hflagged ⊢
  refine hflagged.imp (h.kept (n, n') ?_) fun hmissing => ?_
  · exact List.mem_iff_getElem?.2 ⟨i, List.getElem?_zip_eq_some.2 ⟨hi, hi'⟩⟩
  · rw [← missing_unflagged, ← hn, missing_unflagged, hmissing]

/-- **More flags, the same node**: it stands in the same place, and only flags in it differ. -/
theorem map_firstFault? (h : root.GainsFlags root') (hroot : root.FaultsFlagged) :
    root'.firstFault?.map unflagged = root.firstFault?.map unflagged ∧
      root'.nodes.findIdx isFault = root.nodes.findIdx isFault := by
  have hflags : isFault ∘ unflagged = isFault := funext isFault_unflagged
  rw [firstFault?_eq_find? hroot, firstFault?_eq_find? (h.faultsFlagged hroot)]
  constructor
  · rw [← hflags, ← List.find?_map, ← List.find?_map, h.map_nodes]
  · rw [← hflags, ← List.findIdx_map, ← List.findIdx_map, h.map_nodes]

/-- More flags, the same diagnostic. -/
theorem diagnostic_eq (h : root.GainsFlags root') (hroot : root.FaultsFlagged) (file : Path) :
    root'.diagnostic file = root.diagnostic file := by
  have hnode : (root'.firstFault?.getD root').unflagged
      = (root.firstFault?.getD root).unflagged := by
    rw [← Option.getD_map unflagged, ← Option.getD_map unflagged, (h.map_firstFault? hroot).1,
      h.same]
  rw [diagnostic, diagnostic, ← start_unflagged, ← problem_unflagged, hnode, start_unflagged,
    problem_unflagged]

end GainsFlags

/-! ## Reports -/

/-- **The first damaged node is found, and reported.**  In a tree in which every node with a damaged
one at or below it is flagged, the search finds the first damaged node in the order of the text, and
finds none exactly if there is none.  More flags, on whatever nodes, change neither the place that
is found nor the diagnostic.  The diagnostic of a broken tree names the place where that node
starts, in lines and columns that count from one; it names the start of the whole tree if no node is
damaged. -/
theorem first_fault_in_order {root : Node} (h : root.FaultsFlagged) :
    (∀ n, root.firstFault? = some n ↔ root.IsFirstFault n) ∧
    (root.firstFault? = none ↔ ∀ n ∈ root.nodes, n.isFault = false) ∧
    (∀ root', root.GainsFlags root' →
      root'.firstFault?.map unflagged = root.firstFault?.map unflagged ∧
      root'.nodes.findIdx isFault = root.nodes.findIdx isFault ∧
      ∀ file, root'.diagnostic file = root.diagnostic file) ∧
    ∀ (parse : Source.Parser) (file : Path) (text : String), parse text = some root →
      root.broken = true →
      (∀ n, root.IsFirstFault n → Source.parseText parse file text
        = .error (.notRust file (n.start.row + 1) (n.start.column + 1) n.problem)) ∧
      ((∀ n ∈ root.nodes, n.isFault = false) → Source.parseText parse file text
        = .error (.notRust file (root.start.row + 1) (root.start.column + 1) root.problem)) := by
  have hfind := firstFault?_eq_find? h
  refine ⟨fun n => ?_, ?_, fun root' hgains => ?_, fun parse file text hparse hbroken => ?_⟩
  · rw [hfind, find?_isFault_eq_some_iff]
  · rw [hfind, find?_isFault_eq_none_iff]
  · obtain ⟨hnode, hplace⟩ := hgains.map_firstFault? h
    exact ⟨hnode, hplace, hgains.diagnostic_eq h⟩
  · have herror : Source.parseText parse file text = .error (root.diagnostic file) := by
      rw [Source.parseText, hparse]
      exact if_pos hbroken
    rw [herror, diagnostic, hfind]
    constructor
    · intro n hn
      rw [find?_isFault_eq_some_iff.2 hn, Option.getD_some]
    · intro hsound
      rw [find?_isFault_eq_none_iff.2 hsound, Option.getD_none]

namespace Sample

/-- A node without a field. -/
def part (kind text : String) (broken : Bool) (row column : Nat) (children : List Node) : Node :=
  ⟨kind, some text, true, false, broken, ⟨row, column⟩, none, children⟩

/-- The semicolon that the second line lacks. -/
def semicolon : Node := ⟨";", some "", false, true, false, ⟨1, 5⟩, none, []⟩

/-- The lines `mod a;`, `use b` and `)`.  Nothing is wrong with the first item, whether it is
flagged or not. -/
def damaged (flag : Bool) : Node :=
  part "source_file" "mod a;\nuse b\n)" true 0 0 [
    part "mod_item" "mod a;" flag 0 0 [part "identifier" "a" false 0 4 []],
    part "use_declaration" "use b" true 1 0 [part "identifier" "b" false 1 4 [], semicolon],
    part "ERROR" ")" true 2 0 []]

end Sample

/-- The semicolon is found in the second item, before the stray bracket of the third.  With a flag
on the first item the search looks there in vain, and goes on. -/
theorem lacking_semicolon_reported :
    (Sample.damaged false).FaultsFlagged ∧
      (Sample.damaged false).firstFault? = some Sample.semicolon ∧
      (∀ file text, Source.parseText (fun _ => some (Sample.damaged false)) file text
        = .error (.notRust file 2 6 "missing ';'")) ∧
      (Sample.damaged false).GainsFlags (Sample.damaged true) ∧
      ∀ file, (Sample.damaged true).diagnostic file = (Sample.damaged false).diagnostic file := by
  have hflagged : (Sample.damaged false).FaultsFlagged := by
    unfold FaultsFlagged
    decide
  have hfirst : (Sample.damaged false).IsFirstFault Sample.semicolon :=
    ⟨(Sample.damaged false).nodes.take 5, (Sample.damaged false).nodes.drop 6, rfl, rfl,
      by decide⟩
  have hgains : (Sample.damaged false).GainsFlags (Sample.damaged true) := ⟨rfl, by decide⟩
  obtain ⟨hfind, -, hmore, hreport⟩ := first_fault_in_order hflagged
  exact ⟨hflagged, (hfind _).2 hfirst,
    fun file text => (hreport _ file text rfl rfl).1 _ hfirst, hgains, (hmore _ hgains).2.2⟩

end Node

end CrateAtlas
