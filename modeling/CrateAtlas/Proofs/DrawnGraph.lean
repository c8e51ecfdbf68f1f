import CrateAtlas.Export.Mermaid
import CrateAtlas.Proofs.NodeNames

/-!
# What a diagram draws

A diagram is a text of lines: a header, a line for each module, an empty line, and a line for each
edge.  That each module and each edge has its line, once and in order, is a matter of the listings
(`draws_sorted`).

That **no edge leads to something that is not drawn** is not: nothing in the drawing checks it.  It
holds because the ends of an edge are modules, whatever was done to the graph before, and so it is
taken from the shape of all graphs that can be reached (`WellFormed.run`).
-/

set_option autoImplicit false

namespace CrateAtlas.Mermaid

open ModuleGraph

variable {g : ModuleGraph}

/-- **What the modules and edges of a diagram show of a graph.** -/
structure Draws (g : ModuleGraph) (nodes : List Module) (arrows : List Edge) : Prop where
  /-- Each module is there once, -/
  node_iff : ∀ m, m ∈ nodes ↔ g.module? m.path = some m
  nodup_nodes : nodes.Nodup
  /-- in the order of written paths, -/
  nodes_le : nodes.Pairwise fun m n => m.path.render ≤ n.path.render
  /-- and so is each edge, -/
  arrow_iff : ∀ e, e ∈ arrows ↔ g.edge? e.source e.target = some e
  nodup_arrows : arrows.Nodup
  /-- in the order of the written paths of its ends, -/
  arrows_le : arrows.Pairwise fun e f => e.source.render < f.source.render ∨
    e.source.render = f.source.render ∧ e.target.render ≤ f.target.render
  /-- which are modules that are there. -/
  source_drawn : ∀ e ∈ arrows, nodeId e.source ∈ nodes.map fun m => nodeId m.path
  target_drawn : ∀ e ∈ arrows, nodeId e.target ∈ nodes.map fun m => nodeId m.path

theorem nodeId_mem_sorted {path : ModulePath} (h : g.contains path = true) :
    nodeId path ∈ g.sortedModules.map fun m => nodeId m.path := by
  obtain ⟨m, hm, rfl⟩ := contains_iff.1 h
  exact List.mem_map.2 ⟨m, g.sortedModules_perm.mem_iff.2 hm, rfl⟩

theorem draws_sorted (h : WellFormed g) : Draws g g.sortedModules g.sortedEdges where
  node_iff m := by
    rw [module?_eq_some_iff h.nodup_paths, g.sortedModules_perm.mem_iff]
    simp
  nodup_nodes := g.sortedModules_perm.nodup_iff.2 h.nodup_modules
  nodes_le := g.pairwise_sortedModules
  arrow_iff e := by
    rw [edge?_eq_some_iff h.nodup_ends, g.sortedEdges_perm.mem_iff]
    simp
  nodup_arrows := g.sortedEdges_perm.nodup_iff.2 h.nodup_edges
  arrows_le := g.pairwise_sortedEdges.imp fun hle => by
    simpa [edgeKey, Prod.Lex.toLex_le_toLex] using hle
  source_drawn e he := nodeId_mem_sorted (h.source_mem e (g.sortedEdges_perm.mem_iff.1 he))
  target_drawn e he := nodeId_mem_sorted (h.target_mem e (g.sortedEdges_perm.mem_iff.1 he))

/-! ## Rows -/

/-- The rows of a drawing with these modules and edges. -/
def rows (orientation : String) (dashed : Bool) (nodes : List Module) (arrows : List Edge) :
    List String :=
  ["flowchart " ++ orientation]
    ++ nodes.map (fun m => "    " ++ nodeId m.path ++ "[\"" ++ m.path.render ++ "\"]")
    ++ [""]
    ++ arrows.map fun e => "    " ++ nodeId e.source ++
        (if dashed = true ∧ e.kind = .imports then " -.-> " else " --> ") ++ nodeId e.target

theorem edgeLine_eq (dashed : Bool) (e : Edge) :
    edgeLine dashed e = "    " ++ nodeId e.source ++
      (if dashed = true ∧ e.kind = .imports then " -.-> " else " --> ") ++ nodeId e.target := by
  by_cases h : dashed = true ∧ e.kind = .imports
  · simp [edgeLine, arrow, h, String.append_assoc]
  · have harrow : arrow dashed e.kind = "-->" := if_neg (by simpa using h)
    rw [edgeLine, harrow, if_neg h]
    simp [String.append_assoc]

theorem lines_eq_rows (g : ModuleGraph) (orientation : String) (dashed : Bool) :
    lines g orientation dashed = rows orientation dashed g.sortedModules g.sortedEdges := by
  have hedges : edgeLine dashed = _ := funext (edgeLine_eq dashed)
  simp [lines, rows, hedges, nodeLine]

/-- A text is made of its lines, each of them with its end. -/
theorem intercalate_append_break {lines : List String} (h : lines ≠ []) :
    "\n".intercalate lines ++ "\n" = String.join (lines.map (· ++ "\n")) := by
  induction lines with
  | nil => exact absurd rfl h
  | cons line rest ih =>
    by_cases hrest : rest = []
    · subst hrest
      simp
    · rw [String.intercalate_cons_of_ne_nil hrest, String.append_assoc, ih hrest]
      simp

/-- Lines without breaks in them are found again by cutting the text at its breaks. -/
theorem splitOn_intercalate_append_break {lines : List String} (hne : lines ≠ [])
    (h : ∀ line ∈ lines, '\n' ∉ line.toList) :
    ("\n".intercalate lines ++ "\n").toList.splitOn '\n' = lines.map String.toList ++ [[]] := by
  have hends : "\n".intercalate lines ++ "\n" = "\n".intercalate (lines ++ [""]) := by
    simp [String.intercalate_append_of_ne_nil hne]
  rw [hends, String.toList_intercalate, List.map_append]
  refine List.splitOn_intercalate '\n' ?_ (by simp)
  simpa [or_imp, forall_and] using h

/-- The characters of an identifier are those of the written path, and underscores. -/
theorem mem_joinWords {c : Char} {cs : List Char} (h : c ∈ joinWords cs) : c = '_' ∨ c ∈ cs := by
  fun_induction joinWords cs with
  | case1 => cases h
  | case2 cs ih =>
    rcases List.mem_cons.1 h with rfl | h
    · exact .inl rfl
    · exact (ih h).imp_right fun hm => by simp [hm]
  | case3 d cs _ ih =>
    rcases List.mem_cons.1 h with rfl | h
    · simp
    · exact (ih h).imp_right fun hm => by simp [hm]

theorem break_not_mem_nodeId {path : ModulePath} (h : '\n' ∉ path.render.toList) :
    '\n' ∉ (nodeId path).toList := by
  intro hmem
  rcases mem_joinWords (by simpa [nodeId] using hmem) with hc | hc
  · exact absurd hc (by decide)
  · exact h hc

theorem break_not_mem_rows {orientation : String} {dashed : Bool} {nodes : List Module}
    {arrows : List Edge} (horientation : '\n' ∉ orientation.toList)
    (hnodes : ∀ m ∈ nodes, '\n' ∉ m.path.render.toList)
    (harrows : ∀ e ∈ arrows, '\n' ∉ (nodeId e.source).toList ∧ '\n' ∉ (nodeId e.target).toList) :
    ∀ row ∈ rows orientation dashed nodes arrows, '\n' ∉ row.toList := by
  intro row hrow
  simp only [rows, List.mem_append, List.mem_singleton, List.mem_map] at hrow
  rcases hrow with ((rfl | ⟨m, hm, rfl⟩) | rfl) | ⟨e, he, rfl⟩
  · simp [horientation]
  · simp [hnodes m hm, break_not_mem_nodeId (hnodes m hm)]
  · simp
  · obtain ⟨hsource, htarget⟩ := harrows e he
    split <;> simp [hsource, htarget]

/-- An end of an edge is written without breaks if the modules that are there are. -/
theorem break_not_mem_of_drawn {nodes : List Module}
    (hnodes : ∀ m ∈ nodes, '\n' ∉ m.path.render.toList) {id : String}
    (h : id ∈ nodes.map fun m => nodeId m.path) : '\n' ∉ id.toList := by
  obtain ⟨m, hm, rfl⟩ := List.mem_map.1 h
  exact break_not_mem_nodeId (hnodes m hm)

/-! ## The diagram -/

/-- **A diagram shows all of a graph and refers to nothing that it does not show.**  Whatever was
done to the graph, its diagram is the header, a row for each module, an empty row, and a row for
each edge, with ends that have rows of their own.  Without line breaks in what is written, these
rows are also what a reader of the text finds. -/
theorem diagram_shows_graph (unit : String) (calls : List Call) (orientation : String)
    (dashed : Bool) :
    ∃ nodes arrows, Draws ((empty unit).run calls) nodes arrows ∧
      diagram ((empty unit).run calls) orientation dashed
        = String.join ((rows orientation dashed nodes arrows).map (· ++ "\n")) ∧
      ('\n' ∉ orientation.toList → (∀ m ∈ nodes, '\n' ∉ m.path.render.toList) →
        (diagram ((empty unit).run calls) orientation dashed).toList.splitOn '\n'
          = (rows orientation dashed nodes arrows).map String.toList ++ [[]]) := by
  have hdraws := draws_sorted ((WellFormed.empty unit).run calls)
  have hne : rows orientation dashed ((empty unit).run calls).sortedModules
      ((empty unit).run calls).sortedEdges ≠ [] := by simp [rows]
  refine ⟨_, _, hdraws, ?_, fun horientation hnodes => ?_⟩
  · rw [diagram, lines_eq_rows, intercalate_append_break hne]
  · rw [diagram, lines_eq_rows]
    refine splitOn_intercalate_append_break hne (break_not_mem_rows horientation hnodes ?_)
    exact fun e he => ⟨break_not_mem_of_drawn hnodes (hdraws.source_drawn e he),
      break_not_mem_of_drawn hnodes (hdraws.target_drawn e he)⟩

/-- Calls after which the tests, and the edge to them, are gone. -/
def trimmedCalls : List Call :=
  [.addModule ⟨.root, .root, none⟩, .addModule ⟨⟨["tests"]⟩, .inline, none⟩,
    .addModule ⟨⟨["a"]⟩, .inline, none⟩, Call.addEdge ⟨.root, ⟨["a"]⟩, .declares⟩,
    Call.addEdge ⟨⟨["a"]⟩, .root, .imports⟩, Call.addEdge ⟨.root, ⟨["tests"]⟩, .declares⟩,
    .exclude [] true]

/-- The two edges that are left have their rows, and the ends of both are drawn. -/
theorem rows_of_trimmedCalls : ∃ nodes arrows,
    (diagram ((empty "demo").run trimmedCalls) "TD" true).toList.splitOn '\n'
      = (rows "TD" true nodes arrows).map String.toList ++ [[]] ∧
    ⟨⟨["a"]⟩, .root, .imports⟩ ∈ arrows ∧ ⟨.root, ⟨["a"]⟩, .declares⟩ ∈ arrows ∧
    ⟨.root, ⟨["tests"]⟩, .declares⟩ ∉ arrows ∧
    nodeId ⟨["a"]⟩ ∈ nodes.map fun m => nodeId m.path := by
  obtain ⟨nodes, arrows, hdraws, -, hrows⟩ := diagram_shows_graph "demo" trimmedCalls "TD" true
  have hmodules : ((empty "demo").run trimmedCalls).modules
      = [⟨.root, .root, none⟩, ⟨⟨["a"]⟩, .inline, none⟩] := by cbv
  have himport : ⟨⟨["a"]⟩, .root, .imports⟩ ∈ arrows := (hdraws.arrow_iff _).2 (by cbv)
  have hcontains : ⟨.root, ⟨["a"]⟩, .declares⟩ ∈ arrows := (hdraws.arrow_iff _).2 (by cbv)
  have hgone : ((empty "demo").run trimmedCalls).edge? .root ⟨["tests"]⟩ = none := by cbv
  have hbreak : ∀ m ∈ nodes, '\n' ∉ m.path.render.toList := by
    intro m hm
    have hstored := List.mem_of_find?_eq_some ((hdraws.node_iff m).1 hm)
    rw [hmodules] at hstored
    simp only [List.mem_cons, List.not_mem_nil, or_false] at hstored
    rcases hstored with rfl | rfl <;> decide
  refine ⟨nodes, arrows, hrows (by decide) hbreak, himport, hcontains, fun h => ?_,
    hdraws.source_drawn _ himport⟩
  rw [hdraws.arrow_iff, hgone] at h
  cases h

end CrateAtlas.Mermaid
