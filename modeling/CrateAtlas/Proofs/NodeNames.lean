import CrateAtlas.Export.Mermaid
import CrateAtlas.Proofs.Listing
import CrateAtlas.Proofs.Reached

/-!
# Identifiers of nodes

In a diagram a module is known by its identifier, which has an underscore for every `::` of the
path.  Names may have underscores of their own, and these look the same: `a_b` and `a::b` are both
called `a_b` (`Mermaid.one_id_for_two_modules`).  What an identifier tells is the list of *words* of
a path, which are what is left of its names when they are cut at their underscores
(`Mermaid.words`).

**Two modules have the same identifier exactly if their paths have the same words**
(`Mermaid.nodeId_eq_iff`), and so modules are told apart exactly if no two of them have the same
words; then each line of an edge tells which edge it is (`Mermaid.node_ids_tell_words`).  A crate in
which no name has an underscore, and in which no top-level module is called like the root, is of
this kind.

All this is about names without colons and spaces.  A parser sees to that: an identifier has
neither.
-/

set_option autoImplicit false

namespace CrateAtlas

/-- A name without colons and spaces. -/
def PlainName (name : String) : Prop := ':' ∉ name.toList ∧ ' ' ∉ name.toList

instance (name : String) : Decidable (PlainName name) := inferInstanceAs (Decidable (_ ∧ _))

/-- A block that declares modules with plain names only, with those of its inline modules. -/
inductive Block.PlainNames : Block → Prop
  | intro {block : Block} (names : ∀ d ∈ block.declarations, PlainName d.name)
      (bodies : ∀ d ∈ block.declarations, ∀ body, d.body = some body → PlainNames body) :
      PlainNames block

/-- The parser takes nothing for the name of a module that is not a plain name. -/
def Source.SpellsNames (parse : Source.Parser) : Prop :=
  ∀ text root, parse text = some root → root.broken = false → (Block.ofNode root).PlainNames

theorem not_mem_intercalate {c : Char} {separator : List Char} (hc : c ∉ separator)
    {names : List (List Char)} (h : ∀ name ∈ names, c ∉ name) :
    c ∉ separator.intercalate names := by
  induction names with
  | nil => simp
  | cons name names ih =>
    obtain ⟨hname, hnames⟩ := List.forall_mem_cons.1 h
    cases names with
    | nil => simpa using hname
    | cons next names =>
      rw [List.intercalate_cons_cons]
      simp [hname, hc, ih hnames]

namespace ModulePath

/-- All names on the path are plain. -/
def Plain (p : ModulePath) : Prop := ∀ name ∈ p.segments, PlainName name

/-- The names of a path as they are written; the root has one as well. -/
def names (p : ModulePath) : List (List Char) :=
  if p.segments = [] then [rootName.toList] else p.segments.map String.toList

theorem names_ne_nil (p : ModulePath) : p.names ≠ [] := by
  rw [names]
  split_ifs with h
  · exact List.cons_ne_nil _ _
  · simpa using h

theorem Plain.not_mem {p : ModulePath} (h : p.Plain) {name : List Char} (hn : name ∈ p.names) :
    ':' ∉ name ∧ ' ' ∉ name := by
  rw [names] at hn
  split_ifs at hn
  · obtain rfl := List.mem_singleton.1 hn
    decide
  · obtain ⟨segment, hs, rfl⟩ := List.mem_map.1 hn
    exact h segment hs

theorem toList_render (p : ModulePath) : p.render.toList = [':', ':'].intercalate p.names := by
  rw [names]
  split_ifs with h
  · rw [render, h]
    simp
  · rw [render_of_ne_nil h, String.toList_intercalate]
    rfl

end ModulePath

namespace Mermaid

open ModulePath (Plain)

/-! ## Identifiers -/

/-- The words of a path: what is left of its names when they are cut at their underscores. -/
def words (p : ModulePath) : List (List Char) := p.names.flatMap fun name => name.splitOn '_'

theorem joinWords_append {name : List Char} (h : ':' ∉ name) (rest : List Char) :
    joinWords (name ++ rest) = name ++ joinWords rest := by
  induction name with
  | nil => rfl
  | cons c name ih =>
    obtain ⟨hc, hname⟩ := not_or.1 (mt List.mem_cons.2 h)
    rw [List.cons_append, joinWords, ih hname, List.cons_append]
    exact fun _ hcolon _ => hc hcolon.symm

theorem joinWords_intercalate {names : List (List Char)} (h : ∀ name ∈ names, ':' ∉ name) :
    joinWords ([':', ':'].intercalate names) = ['_'].intercalate names := by
  induction names with
  | nil => rfl
  | cons name names ih =>
    obtain ⟨hname, hnames⟩ := List.forall_mem_cons.1 h
    cases names with
    | nil => simpa [joinWords] using joinWords_append hname []
    | cons next names =>
      rw [List.intercalate_cons_cons, List.intercalate_cons_cons, List.append_assoc,
        joinWords_append hname]
      simp [joinWords, ih hnames]

theorem toList_nodeId {p : ModulePath} (h : p.Plain) :
    (nodeId p).toList = ['_'].intercalate p.names := by
  rw [nodeId, String.toList_ofList, p.toList_render,
    joinWords_intercalate fun name hn => (h.not_mem hn).1]

theorem splitOn_intercalate_flatMap {names : List (List Char)} (h : names ≠ []) :
    (['_'].intercalate names).splitOn '_' = names.flatMap fun name => name.splitOn '_' := by
  induction names with
  | nil => exact absurd rfl h
  | cons name names ih =>
    cases names with
    | nil => simp
    | cons next names =>
      rw [List.intercalate_cons_cons, List.append_assoc, List.singleton_append,
        List.splitOn_append_cons_self, ih (List.cons_ne_nil _ _), List.flatMap_cons (x := name)]

/-- An identifier, cut at its underscores, gives the words of the path. -/
theorem splitOn_nodeId {p : ModulePath} (h : p.Plain) :
    (nodeId p).toList.splitOn '_' = words p := by
  rw [toList_nodeId h, splitOn_intercalate_flatMap p.names_ne_nil, words]

/-- **An identifier tells the words of the path**, no less and no more. -/
theorem nodeId_eq_iff {p q : ModulePath} (hp : p.Plain) (hq : q.Plain) :
    nodeId p = nodeId q ↔ words p = words q := by
  constructor
  · intro h
    rw [← splitOn_nodeId hp, ← splitOn_nodeId hq, h]
  · intro h
    rw [← splitOn_nodeId hp, ← splitOn_nodeId hq] at h
    have hjoin := congrArg (['_'].intercalate) h
    rw [List.intercalate_splitOn, List.intercalate_splitOn] at hjoin
    exact String.toList_inj.1 hjoin

/-- An identifier has no spaces. -/
theorem space_not_mem_nodeId {p : ModulePath} (h : p.Plain) : ' ' ∉ (nodeId p).toList := by
  rw [toList_nodeId h]
  exact not_mem_intercalate (by decide) fun name hn => (h.not_mem hn).2

/-- Names without underscores are the words. -/
theorem words_eq_names {p : ModulePath} (h : ∀ name ∈ p.segments, '_' ∉ name.toList) :
    words p = p.names := by
  have hnames : ∀ name ∈ p.names, '_' ∉ name := by
    rw [ModulePath.names]
    split_ifs
    · decide
    · simpa using h
  calc words p = p.names.flatMap fun name => [name] :=
        List.flatMap_congr fun name hn => List.splitOn_eq_singleton (hnames name hn)
    _ = p.names := List.flatMap_singleton' _

/-- Names tell the path, except that the root is called like a module `crate` at the top. -/
theorem eq_of_names_eq {p q : ModulePath} (hp : p.segments ≠ [ModulePath.rootName])
    (hq : q.segments ≠ [ModulePath.rootName]) (h : p.names = q.names) : p = q := by
  have hinj : Function.Injective (List.map String.toList) :=
    List.map_injective_iff.2 fun _ _ => String.toList_inj.1
  have hroot : [ModulePath.rootName.toList] = [ModulePath.rootName].map String.toList := rfl
  obtain ⟨segments⟩ := p
  obtain ⟨segments'⟩ := q
  congr 1
  rw [ModulePath.names, ModulePath.names, hroot] at h
  split_ifs at h with hs hs' hs'
  · exact hs.trans hs'.symm
  · exact absurd (hinj h).symm hq
  · exact absurd (hinj h) hp
  · exact hinj h

/-! ## Lines -/

theorem drop_edgeLine (dashed : Bool) (e : Edge) :
    (edgeLine dashed e).toList.drop 4 = [' '].intercalate
      [(nodeId e.source).toList, (arrow dashed e.kind).toList, (nodeId e.target).toList] := by
  simp [edgeLine]

/-- The parts of the line of an edge are what stands between its spaces. -/
theorem splitOn_edgeLine (dashed : Bool) {e : Edge} (hs : e.source.Plain) (ht : e.target.Plain) :
    ((edgeLine dashed e).toList.drop 4).splitOn ' '
      = [(nodeId e.source).toList, (arrow dashed e.kind).toList, (nodeId e.target).toList] := by
  have harrow : ' ' ∉ (arrow dashed e.kind).toList := by
    cases dashed <;> cases e.kind <;> decide
  rw [drop_edgeLine]
  refine List.splitOn_intercalate ' ' ?_ (List.cons_ne_nil _ _)
  simp [space_not_mem_nodeId hs, space_not_mem_nodeId ht, harrow]

/-- The line of an edge tells the identifiers of its ends. -/
theorem nodeId_eq_of_edgeLine_eq {dashed : Bool} {e f : Edge} (hs : e.source.Plain)
    (ht : e.target.Plain) (hs' : f.source.Plain) (ht' : f.target.Plain)
    (h : edgeLine dashed e = edgeLine dashed f) :
    nodeId e.source = nodeId f.source ∧ nodeId e.target = nodeId f.target := by
  have hcut := splitOn_edgeLine dashed hs ht
  rw [h, splitOn_edgeLine dashed hs' ht'] at hcut
  simp only [List.cons.injEq, String.toList_inj] at hcut
  exact ⟨hcut.1.symm, hcut.2.2.1.symm⟩

end Mermaid

/-! ## Graphs -/

namespace Build

variable {t : FileTree} {parse : Source.Parser} {file : Path} {g : ModuleGraph}

/-- The names on the way to a module are plain. -/
theorem Declared.plain (hparse : Source.SpellsNames parse) {r p : Pending t}
    {segments : List String} (hr : r.body = none) (h : Declared parse r segments p) :
    (⟨segments⟩ : ModulePath).Plain := by
  induction h with
  | root => simp [ModulePath.Plain]
  | child h hi hf ih =>
    obtain ⟨d, hd, rfl, -⟩ := hf.exists_declare
    have hblock : Block.PlainNames _ := h.block_induction
      (fun hread => by
        obtain ⟨text, root, hroot, hsound, rfl⟩ := Source.exists_root_of_readBlock hread
        exact hparse text root hroot hsound)
      (fun ⟨_, bodies⟩ hd hb => bodies _ hd _ hb) hr hi
    obtain ⟨names, -⟩ := hblock
    intro name hname
    rcases List.mem_append.1 hname with hname | hname
    · exact ih name hname
    · obtain rfl := List.mem_singleton.1 hname
      exact names d hd

theorem Built.plain (h : Built parse (rootOf t file) g) (hparse : Source.SpellsNames parse)
    {path : ModulePath} (hc : g.contains path = true) : path.Plain := by
  obtain ⟨p, hp⟩ := h.contains_iff.1 hc
  exact hp.plain hparse rfl

end Build

/-! ## A crate with underscores -/

namespace Build.Sample

/-- A block without declarations. -/
theorem plainNames_leaf (uses : List UseTree) : (Block.mk [] uses).PlainNames :=
  .intro (by simp [Block.declarations]) (by simp [Block.declarations])

theorem spellsNames_of_plainNames {source : String} {root : Node}
    (h : (Block.ofNode root).PlainNames) : Source.SpellsNames (parser source root) := by
  intro text found hfound _
  rw [parser] at hfound
  split_ifs at hfound
  cases hfound
  exact h

/-- A crate with the modules `a_b` and `a::b`. -/
def scoreSource : String := "mod a_b\x7b\x7dmod a\x7bmod b\x7b\x7d\x7d"

/-- The syntax tree of that crate. -/
def scoreRoot : Node :=
  node "source_file" scoreSource 0 none [
    node "mod_item" "mod a_b\x7b\x7d" 0 none [
      mark "mod" 0,
      node "identifier" "a_b" 4 (some "name") [],
      node "declaration_list" "\x7b\x7d" 7 (some "body") [
        mark "\x7b" 7,
        mark "\x7d" 8]],
    node "mod_item" "mod a\x7bmod b\x7b\x7d\x7d" 9 none [
      mark "mod" 9,
      node "identifier" "a" 13 (some "name") [],
      node "declaration_list" "\x7bmod b\x7b\x7d\x7d" 14 (some "body") [
        mark "\x7b" 14,
        node "mod_item" "mod b\x7b\x7d" 15 none [
          mark "mod" 15,
          node "identifier" "b" 19 (some "name") [],
          node "declaration_list" "\x7b\x7d" 20 (some "body") [
            mark "\x7b" 20,
            mark "\x7d" 21]],
        mark "\x7d" 22]]]

/-- The body of the module `a`. -/
def outerBlock : Block := .mk [.mk "b" none (some (.mk [] []))] []

/-- The module `a_b`. -/
def joined : Pending (tree scoreSource) where
  place := ⟨⟨["a_b"]⟩, rootFile, .inline, ⟨.top, ["a_b"]⟩⟩
  above := [["lib.rs"]]
  body := some (.mk [] [])
  fresh := by simp

/-- The module `a`. -/
def outer : Pending (tree scoreSource) where
  place := ⟨⟨["a"]⟩, rootFile, .inline, ⟨.top, ["a"]⟩⟩
  above := [["lib.rs"]]
  body := some outerBlock
  fresh := by simp

/-- The module `a::b`. -/
def nested : Pending (tree scoreSource) where
  place := ⟨⟨["a", "b"]⟩, rootFile, .inline, ⟨.top, ["a", "b"]⟩⟩
  above := [["lib.rs"]]
  body := some (.mk [] [])
  fresh := by simp

/-- The four modules of the crate, in order. -/
theorem visits_scoreRoot :
    Visits (parser scoreSource scoreRoot) [rootOf (tree scoreSource) rootFile]
      [rootOf (tree scoreSource) rootFile, joined, outer, nested] := by
  have hblock : Block.ofNode scoreRoot
      = .mk [.mk "a_b" none (some (.mk [] [])), .mk "a" none (some outerBlock)] [] := by cbv
  have hroot : (rootOf (tree scoreSource) rootFile).items (parser scoreSource scoreRoot)
      = .ok (.mk [.mk "a_b" none (some (.mk [] [])), .mk "a" none (some outerBlock)] []) := by
    rw [items_of_readText (by cbv) rfl, hblock]
  have hjoined : (rootOf (tree scoreSource) rootFile).declare (.mk "a_b" none (some (.mk [] [])))
      = .ok joined := by cbv
  have houter : (rootOf (tree scoreSource) rootFile).declare (.mk "a" none (some outerBlock))
      = .ok outer := by cbv
  have hnested : outer.declare (.mk "b" none (some (.mk [] []))) = .ok nested := by cbv
  exact .opened hroot (.first hjoined (by simp) (.first houter (by decide) .nil))
    (.opened (p := joined) rfl .nil
      (.opened (p := outer) rfl (.first hnested (by simp) .nil)
        (.opened (p := nested) rfl .nil .done)))

theorem exists_built_scoreRoot :
    ∃ g, (graph (parser scoreSource scoreRoot) (tree scoreSource) "demo" rootFile).result = .ok g ∧
      Built (parser scoreSource scoreRoot) (rootOf (tree scoreSource) rootFile) g :=
  visits_scoreRoot.exists_built "demo" (canonical_tree scoreSource)

end Build.Sample

namespace Mermaid

open Build (graph)

/-- No two modules of the graph have the same words. -/
def DistinctWords (g : ModuleGraph) : Prop :=
  ∀ p q : ModulePath, g.contains p = true → g.contains q = true → words p = words q → p = q

theorem nodup_nodeIds_iff {g : ModuleGraph} (hg : g.paths.Nodup)
    (hplain : ∀ {path}, g.contains path = true → path.Plain) :
    (g.sortedModules.map fun m => nodeId m.path).Nodup ↔ DistinctWords g := by
  have hperm : (g.sortedModules.map fun m => nodeId m.path).Perm (g.paths.map nodeId) := by
    rw [ModuleGraph.paths, List.map_map]
    exact g.sortedModules_perm.map _
  rw [hperm.nodup_iff, List.nodup_map_iff_inj_on hg]
  simp only [ModuleGraph.mem_paths]
  constructor
  · intro h p q hp hq hwords
    exact h p hp q hq ((nodeId_eq_iff (hplain hp) (hplain hq)).2 hwords)
  · intro h p hp q hq hid
    exact h p q hp hq ((nodeId_eq_iff (hplain hp) (hplain hq)).1 hid)

theorem distinctWords_of_no_underscore {g : ModuleGraph}
    (h : ∀ p : ModulePath, g.contains p = true →
      p.segments ≠ [ModulePath.rootName] ∧ ∀ name ∈ p.segments, '_' ∉ name.toList) :
    DistinctWords g := by
  intro p q hp hq hwords
  rw [words_eq_names (h p hp).2, words_eq_names (h q hq).2] at hwords
  exact eq_of_names_eq (h p hp).1 (h q hq).1 hwords

/-- **Identifiers tell words.**  Two modules of a crate have the same identifier exactly if their
paths have the same words.  So the lines of the modules define different identifiers exactly if no
two modules have the same words, and then the line of an edge tells which edge it is.  This is so
where no name has an underscore and no module at the top is called like the root. -/
theorem node_ids_tell_words {parse : Source.Parser} {t : FileTree} {unit : String} {file : Path}
    {g : ModuleGraph} (hparse : Source.SpellsNames parse)
    (h : (graph parse t unit file).result = .ok g) :
    (∀ p q : ModulePath, g.contains p = true → g.contains q = true →
      (nodeId p = nodeId q ↔ words p = words q)) ∧
    ((g.sortedModules.map fun m => nodeId m.path).Nodup ↔ DistinctWords g) ∧
    (DistinctWords g → ∀ dashed, ∀ e ∈ g.edges, ∀ f ∈ g.edges,
      edgeLine dashed e = edgeLine dashed f → e = f) ∧
    ((∀ p : ModulePath, g.contains p = true →
      p.segments ≠ [ModulePath.rootName] ∧ ∀ name ∈ p.segments, '_' ∉ name.toList) →
      DistinctWords g) := by
  have hb := Build.built_of_graph h
  have hwf := (Build.reached_graph h).wellFormed
  have hwords {p q : ModulePath} (hp : g.contains p = true) (hq : g.contains q = true) :
      nodeId p = nodeId q ↔ words p = words q :=
    nodeId_eq_iff (hb.plain hparse hp) (hb.plain hparse hq)
  refine ⟨fun _ _ => hwords, nodup_nodeIds_iff hwf.nodup_paths (hb.plain hparse), ?_,
    distinctWords_of_no_underscore⟩
  intro hdistinct dashed e he f hf hline
  have hs := hwf.source_mem e he
  have ht := hwf.target_mem e he
  have hs' := hwf.source_mem f hf
  have ht' := hwf.target_mem f hf
  obtain ⟨hsource, htarget⟩ := nodeId_eq_of_edgeLine_eq (hb.plain hparse hs) (hb.plain hparse ht)
    (hb.plain hparse hs') (hb.plain hparse ht') hline
  have hends : (e.source, e.target) = (f.source, f.target) := Prod.ext
    (hdistinct _ _ hs hs' ((hwords hs hs').1 hsource))
    (hdistinct _ _ ht ht' ((hwords ht ht').1 htarget))
  exact List.inj_on_of_nodup_map hwf.nodup_ends he hf hends

open Build Build.Sample

/-- In `mod a { use super::*; }` the two modules have identifiers of their own. -/
theorem node_ids_of_inner_module :
    Source.SpellsNames (parser globSource globRoot) ∧
    ∃ g, (graph (parser globSource globRoot) (tree globSource) "demo" rootFile).result = .ok g ∧
      g.contains ⟨["a"]⟩ = true ∧ (g.sortedModules.map fun m => nodeId m.path).Nodup := by
  have hparse : Source.SpellsNames (parser globSource globRoot) := by
    have hblock : Block.ofNode globRoot
        = .mk [.mk "a" none (some (.mk [] [.path "super" .glob]))] [] := by cbv
    refine spellsNames_of_plainNames (hblock ▸ .intro ?_ ?_)
    · intro d hd
      obtain rfl := List.mem_singleton.1 hd
      decide
    · intro d hd body hbody
      obtain rfl := List.mem_singleton.1 hd
      cases hbody
      exact plainNames_leaf _
  obtain ⟨g, hg, hb⟩ := exists_built_globRoot
  obtain ⟨-, hnodup, -, hplain⟩ := node_ids_tell_words hparse hg
  refine ⟨hparse, g, hg, (visits_globRoot.contains_iff hb).2 ⟨inner, by simp, rfl⟩,
    hnodup.2 (hplain ?_)⟩
  intro path hpath
  obtain ⟨q, hq, rfl⟩ := (visits_globRoot.contains_iff hb).1 hpath
  rcases List.mem_cons.1 hq with rfl | hq
  · decide
  · obtain rfl := List.mem_singleton.1 hq
    decide

/-- In `mod a_b {} mod a { mod b {} }` two modules share an identifier. -/
theorem one_id_for_two_modules :
    ∃ g, (graph (parser scoreSource scoreRoot) (tree scoreSource) "demo" rootFile).result = .ok g ∧
      g.contains ⟨["a_b"]⟩ = true ∧ g.contains ⟨["a", "b"]⟩ = true ∧
      nodeId ⟨["a_b"]⟩ = nodeId ⟨["a", "b"]⟩ ∧
      ¬(g.sortedModules.map fun m => nodeId m.path).Nodup := by
  obtain ⟨g, hg, hb⟩ := exists_built_scoreRoot
  have hjoined : g.contains ⟨["a_b"]⟩ = true :=
    (visits_scoreRoot.contains_iff hb).2 ⟨joined, by simp, rfl⟩
  have hnested : g.contains ⟨["a", "b"]⟩ = true :=
    (visits_scoreRoot.contains_iff hb).2 ⟨nested, by simp, rfl⟩
  have hid : nodeId ⟨["a_b"]⟩ = nodeId ⟨["a", "b"]⟩ := by cbv
  refine ⟨g, hg, hjoined, hnested, hid, fun hnodup => ?_⟩
  obtain ⟨m, hm, hpath⟩ := ModuleGraph.contains_iff.1 hjoined
  obtain ⟨n, hn, hpath'⟩ := ModuleGraph.contains_iff.1 hnested
  have heq := List.inj_on_of_nodup_map hnodup (g.sortedModules_perm.mem_iff.2 hm)
    (g.sortedModules_perm.mem_iff.2 hn) (by rw [hpath, hpath', hid])
  have hne : (⟨["a_b"]⟩ : ModulePath) ≠ ⟨["a", "b"]⟩ := by decide
  exact hne (hpath ▸ hpath' ▸ congrArg Module.path heq)

end Mermaid

end CrateAtlas
