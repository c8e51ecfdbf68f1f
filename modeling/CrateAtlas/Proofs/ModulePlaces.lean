import Mathlib.Data.List.TakeWhile
import CrateAtlas.Proofs.BuiltGraph
import CrateAtlas.Proofs.TreeShape
import CrateAtlas.Text.Identifier

/-!
# Where the modules of a crate lie

A module is declared in a block, and its file is looked for in the directory of that block.  Which
directory that is depends on the kind of the declaring module: the root owns the directory it is in,
`mod.rs` too, another file owns the directory that is called as it is, and an inline module owns the
directory of its name below the one it stands in.

* `Pending.Follows` — the declaration that leads from a module to one below.  Declarations of a name
  that leads nowhere are passed over.
* `Plainly` — the modules that are reached without a `path` attribute.  Whatever the kinds of the
  modules on the way, the directories are those of the path (`Plainly.directory_eq`), so the files
  are too (`Plainly.file_eq`).
* `Pending.Follows.of_override` — the place of a module that an attribute loads.
* `modules_lie_by_path` — the modules of a graph lie where their paths say.
-/

set_option autoImplicit false

namespace CrateAtlas

/-! ## Names as components of paths -/

/-- A name that is a component of a path by itself. -/
structure IsComponent (name : String) : Prop where
  ne_empty : name ≠ ""
  ne_dot : name ≠ "."
  no_slash : '/' ∉ name.toList

/-- Identifiers are made of letters, digits and underscores. -/
theorem isComponent_of_isIdContinue {name : String} (h : name ≠ "")
    (hc : ∀ c ∈ name.toList, Text.isIdContinue c = true) : IsComponent name where
  ne_empty := h
  ne_dot := by
    rintro rfl
    exact absurd (hc '.' (by simp)) (by decide)
  no_slash := fun hm => absurd (hc '/' hm) (by decide)

theorem IsComponent.append_rs {name : String} (h : IsComponent name) :
    IsComponent (name ++ ".rs") where
  ne_empty := by simp
  ne_dot := by
    intro he
    have hl := congrArg (fun text => text.toList.length) he
    simp at hl
  no_slash := by
    simpa using h.no_slash

theorem isComponent_modRs : IsComponent "mod.rs" := ⟨by decide, by decide, by decide⟩

namespace Path

/-- The path with more components. -/
def along (p : Path) (names : List String) : Path := ⟨p.anchor, p.parts ++ names⟩

@[simp] theorem along_nil (p : Path) : p.along [] = p := by simp [along]

@[simp] theorem along_along (p : Path) (names more : List String) :
    (p.along names).along more = p.along (names ++ more) := by simp [along]

@[simp] theorem parent_along_concat (p : Path) (names : List String) (name : String) :
    (p.along (names ++ [name])).parent = p.along names := by
  simp [along, parent, ← List.append_assoc]

@[simp] theorem name_along_concat (p : Path) (names : List String) (name : String) :
    (p.along (names ++ [name])).name = name := by
  simp [along, Path.name, ← List.append_assoc]

theorem cut_of_no_slash {cs : List Char} (h : '/' ∉ cs) (part : List Char) :
    cut part cs = [part.reverse ++ cs] := by
  induction cs generalizing part with
  | nil => simp [cut]
  | cons c cs ih =>
    rw [List.mem_cons, not_or] at h
    rw [cut, if_neg (Ne.symm h.1), ih h.2]
    simp

theorem components_of_isComponent {name : String} (h : IsComponent name) :
    components name = [name] := by
  have hne : name.toList.isEmpty = false := by simpa using h.ne_empty
  rw [components, cut_of_no_slash h.no_slash]
  simp [hne]

theorem anchorOf_of_no_slash {text : String} (h : '/' ∉ text.toList) : anchorOf text = .here := by
  have hnone : text.toList.takeWhile (· = '/') = [] := by
    rw [List.takeWhile_eq_nil_iff]
    intro hl hslash
    have hmem := List.get_mem text.toList ⟨0, hl⟩
    rw [of_decide_eq_true hslash] at hmem
    exact h hmem
  rw [anchorOf, hnone]
  rfl

theorem parse_of_isComponent {name : String} (h : IsComponent name) :
    parse name = ⟨.here, [name]⟩ := by
  rw [parse, anchorOf_of_no_slash h.no_slash, components_of_isComponent h]
  simp [h.ne_dot]

/-- Joining a name appends it. -/
theorem join_of_isComponent (p : Path) {name : String} (h : IsComponent name) :
    p.join name = p.along [name] := by
  rw [join, parse_of_isComponent h]
  rfl

/-- The ending of a source file is cut off its name. -/
theorem stem_rs (p : Path) (names : List String) {name : String} (h : name ≠ "") :
    (p.along (names ++ [name ++ ".rs"])).stem = name := by
  have hback : (name ++ ".rs").toList.reverse = 's' :: 'r' :: '.' :: name.toList.reverse := by simp
  have hending : (name ++ ".rs").toList.reverse.takeWhile (· ≠ '.') = ['s', 'r'] := by
    rw [hback]
    rfl
  have hrest : (name ++ ".rs").toList.reverse.dropWhile (· ≠ '.')
      = '.' :: name.toList.reverse := by
    rw [hback]
    rfl
  have hlong : decide (('.' :: name.toList.reverse).length < 2) = false := by
    have hpos : 0 < name.toList.length := List.length_pos_iff.2 (by simpa using h)
    rw [List.length_cons, List.length_reverse]
    exact decide_eq_false (by omega)
  have hcut : cutName (name ++ ".rs") = (name.toList, ['.', 'r', 's']) := by
    simp only [cutName, hending, hrest, hlong, List.drop_one, List.tail_cons, List.reverse_reverse]
    rfl
  rw [stem, name_along_concat, hcut, String.ofList_toList]

end Path

namespace Placement

variable {t : FileTree} {scope : Scope} {name : String}

/-- The place of a module that is looked for in a directory: in a file of its name, and failing that
in a directory of its name. -/
def lookIn (t : FileTree) (scope : Scope) (directory : Path) (name : String) :
    Except Failure Placement :=
  match t.firstFile? [directory.along [name ++ ".rs"], directory.along [name, "mod.rs"]] with
  | .error f => .error f
  | .ok (some file) => .ok ⟨scope.path.child name, file, .external, directory.along [name]⟩
  | .ok none =>
    .error (.diagnostic (.noModuleFile (scope.path.child name).render
      [directory.along [name ++ ".rs"], directory.along [name, "mod.rs"]] (some scope.file)))

/-- The directory of a file that is not called `mod.rs` is called as it is. -/
theorem ownedDirectory_rs (directory : Path) (h : IsComponent name) (hmod : name ≠ "mod") :
    ownedDirectory (directory.along [name ++ ".rs"]) false = directory.along [name] := by
  have hstem := directory.stem_rs [] h.ne_empty
  have hname := directory.name_along_concat [] (name ++ ".rs")
  have hparent := directory.parent_along_concat [] (name ++ ".rs")
  have hne : name ++ ".rs" ≠ "mod.rs" := by
    intro he
    have hl : name.toList ++ ".rs".toList = "mod".toList ++ ".rs".toList := by
      simpa using congrArg String.toList he
    exact hmod (String.toList_inj.1 (List.append_cancel_right hl))
  rw [List.nil_append] at hstem hname hparent
  rw [ownedDirectory, hname, hparent, hstem, if_neg (by simpa using hne), Path.along_nil,
    directory.join_of_isComponent h]

theorem ownedDirectory_modRs (directory : Path) (name : String) :
    ownedDirectory (directory.along [name, "mod.rs"]) true = directory.along [name] :=
  directory.parent_along_concat [name] "mod.rs"

/-- **A module without an attribute is looked for in the directory of its scope.** -/
theorem ofDeclaration_eq_lookIn (h : IsComponent name) (hmod : name ≠ "mod") :
    ofDeclaration t scope name false none = lookIn t scope scope.directory name := by
  have hnested : (scope.directory.join name).join "mod.rs"
      = scope.directory.along [name, "mod.rs"] := by
    rw [scope.directory.join_of_isComponent h, Path.join_of_isComponent _ isComponent_modRs]
    simp
  simp only [ofDeclaration, Bool.false_eq_true, if_false, lookIn, FileTree.firstFile?, hnested,
    scope.directory.join_of_isComponent h.append_rs, ownedDirectory_rs _ h hmod,
    ownedDirectory_modRs]
  cases t.probe t.isFile (scope.directory.along [name ++ ".rs"]) with
  | error f => rfl
  | ok isDirect =>
    cases isDirect with
    | true => rfl
    | false =>
      cases t.probe t.isFile (scope.directory.along [name, "mod.rs"]) with
      | error f => rfl
      | ok isNested => cases isNested <;> rfl

theorem ofDeclaration_inline {override : Option String} :
    ofDeclaration t scope name true override
      = .ok ⟨scope.path.child name, scope.file, .inline, scope.directory.join name⟩ := rfl

/-- The file that an attribute names is the file of the module, and owns the directory it is in. -/
theorem ofDeclaration_override {target : String} :
    ofDeclaration t scope name false (some target) =
      .ok ⟨scope.path.child name,
        (if scope.isInline then scope.directory else scope.file.parent).join target, .external,
        ((if scope.isInline then scope.directory else scope.file.parent).join target).parent⟩ := rfl

/-- What was found in a directory lies there. -/
theorem lookIn_eq_ok {directory : Path} {place : Placement}
    (h : lookIn t scope directory name = .ok place) :
    place.directory = directory.along [name] ∧
      place.file = if t.isFile (directory.along [name ++ ".rs"]) then
        directory.along [name ++ ".rs"] else directory.along [name, "mod.rs"] := by
  unfold lookIn at h
  split at h
  · cases h
  · rename_i file hfirst
    cases h
    refine ⟨rfl, ?_⟩
    obtain ⟨before, after, hfiles, hbefore, hfile⟩ := FileTree.firstFile?_eq_some_iff.1 hfirst
    -- The first of two files is the first one, or the second one if the first one is not there.
    cases before with
    | nil =>
      obtain rfl := (List.cons.inj hfiles).1
      rw [if_pos hfile]
    | cons direct before =>
      obtain ⟨rfl, hrest⟩ := List.cons.inj hfiles
      have hnone := (hbefore _ List.mem_cons_self).2
      rw [if_neg (by simp [hnone])]
      cases before with
      | nil => exact (List.cons.inj hrest).1.symm
      | cons nested before => simp at hrest
  · cases h

end Placement

namespace Build

variable {t : FileTree} {parse : Source.Parser} {file : Path}

/-! ## Declarations that are followed -/

/-- `p.Follows parse d c`: in the block of `p`, the declaration `d` is the first one of its name
that leads somewhere, and it leads to `c`. -/
def Pending.Follows (parse : Source.Parser) (p : Pending t) (d : Declaration) (c : Pending t) :
    Prop :=
  ∃ block before after, p.items parse = .ok block ∧ block.declarations = before ++ d :: after ∧
    p.declare d = .ok c ∧ ∀ e ∈ before, e.name = d.name → ∃ f, p.declare e = .error f

theorem Pending.firstOf_iff {p c : Pending t} {name : String} {ds : List Declaration} :
    p.FirstOf name c ds ↔ ∃ before d after, ds = before ++ d :: after ∧ d.name = name ∧
      p.declare d = .ok c ∧ ∀ e ∈ before, e.name = name → ∃ f, p.declare e = .error f := by
  constructor
  · intro h
    induction h with
    | @here d ds hn hd => exact ⟨[], d, ds, rfl, hn, hd, by simp⟩
    | @later e ds he _ ih =>
      obtain ⟨before, d, after, rfl, hn, hd, hbefore⟩ := ih
      exact ⟨e :: before, d, after, rfl, hn, hd, List.forall_mem_cons.2 ⟨he, hbefore⟩⟩
  · rintro ⟨before, d, after, rfl, hn, hd, hbefore⟩
    induction before with
    | nil => exact .here hn hd
    | cons e before ih =>
      obtain ⟨he, hbefore⟩ := List.forall_mem_cons.1 hbefore
      exact .later he (ih hbefore)

/-- A declaration that is followed leads one step down the tree. -/
theorem Declared.follow {root p c : Pending t} {segments : List String} {d : Declaration}
    (h : Declared parse root segments p) (hd : p.Follows parse d c) :
    Declared parse root (segments ++ [d.name]) c := by
  obtain ⟨block, before, after, hi, hds, hdc, hbefore⟩ := hd
  exact .child h hi (Pending.firstOf_iff.2 ⟨before, d, after, hds, rfl, hdc, hbefore⟩)

/-- Every step down the tree follows a declaration. -/
theorem Declared.exists_follows {root c : Pending t} {segments : List String} {name : String}
    (h : Declared parse root (segments ++ [name]) c) :
    ∃ p d, Declared parse root segments p ∧ p.Follows parse d c ∧ d.name = name := by
  generalize hs : segments ++ [name] = path at h
  cases h with
  | root => simp at hs
  | child hp hi hf =>
    obtain ⟨rfl, rfl⟩ := List.append_singleton_inj.1 hs
    obtain ⟨before, d, after, hds, hn, hdc, hbefore⟩ := Pending.firstOf_iff.1 hf
    exact ⟨_, d, hp, ⟨_, before, after, hi, hds, hdc, hn ▸ hbefore⟩, hn⟩

/-- **The modules below one module that no attribute has a part in.**  The path leads from `top` to
`p`, and the declarations that are followed on the way are of inline modules, or have no `path`
attribute. -/
inductive Plainly (parse : Source.Parser) (top : Pending t) : List String → Pending t → Prop
  | self : Plainly parse top [] top
  | child {segments : List String} {p c : Pending t} {d : Declaration}
      (h : Plainly parse top segments p) (hd : p.Follows parse d c)
      (hplain : d.isInline = true ∨ d.override = none) :
      Plainly parse top (segments ++ [d.name]) c

theorem Plainly.declared {top p : Pending t} {segments : List String}
    (h : Plainly parse top segments p) : Declared parse top segments p := by
  induction h with
  | self => exact .root
  | child _ hd _ ih => exact ih.follow hd

/-- The place of a module that is followed without an attribute, in terms of the module above. -/
theorem Pending.Follows.place {p c : Pending t} {d : Declaration} (h : p.Follows parse d c) :
    Placement.ofDeclaration t p.scope d.name d.isInline d.override = .ok c.place := by
  obtain ⟨_, _, _, -, -, hd, -⟩ := h
  exact (Pending.declare_eq_ok hd).1

/-- Names of modules that are components of paths, and none of them is `mod`. -/
def GoodNames (names : List String) : Prop := ∀ name ∈ names, IsComponent name ∧ name ≠ "mod"

/-- **The directory of a module is found by its path** from any module above. -/
theorem Plainly.directory_eq {top p : Pending t} {segments : List String}
    (h : Plainly parse top segments p) (hnames : GoodNames segments) :
    p.place.directory = top.place.directory.along segments := by
  induction h with
  | self => rw [Path.along_nil]
  | @child segments p c d _ hd hplain ih =>
    obtain ⟨habove, hname⟩ := List.forall_mem_append.1 hnames
    obtain ⟨hcomponent, hmod⟩ := hname d.name (List.mem_singleton_self _)
    have hdirectory : c.place.directory = p.place.directory.along [d.name] := by
      have hplace := hd.place
      -- An inline module owns the directory that a file of its name would own.
      cases hinline : d.isInline with
      | true =>
        rw [hinline] at hplace
        have heq := Except.ok.inj (Placement.ofDeclaration_inline.symm.trans hplace)
        rw [← heq]
        exact Path.join_of_isComponent _ hcomponent
      | false =>
        rw [hinline, hplain.resolve_left (by simp [hinline]),
          Placement.ofDeclaration_eq_lookIn hcomponent hmod] at hplace
        exact (Placement.lookIn_eq_ok hplace).1
    rw [hdirectory, ih habove, Path.along_along]

/-- **The file of a module is found by its path** from any module above. -/
theorem Plainly.file_eq {top c : Pending t} {segments above : List String} {name : String}
    (h : Plainly parse top segments c) (hs : segments = above ++ [name])
    (hnames : GoodNames segments) (hk : c.place.kind = .external) :
    c.place.file =
      if t.isFile (top.place.directory.along (above ++ [name ++ ".rs"])) then
        top.place.directory.along (above ++ [name ++ ".rs"])
      else top.place.directory.along (above ++ [name, "mod.rs"]) := by
  cases h with
  | self => simp at hs
  | @child segments p c d h hd hplain =>
    obtain ⟨rfl, rfl⟩ := List.append_singleton_inj.1 hs
    obtain ⟨habove, hname⟩ := List.forall_mem_append.1 hnames
    obtain ⟨hcomponent, hmod⟩ := hname d.name (List.mem_singleton_self _)
    have hplace := hd.place
    have hinline : d.isInline = false := by
      have hkind := (Placement.ofDeclaration_eq_ok hplace).2
      rw [hk] at hkind
      cases hd : d.isInline with
      | true => simp [hd] at hkind
      | false => rfl
    rw [hinline, hplain.resolve_left (by simp [hinline]),
      Placement.ofDeclaration_eq_lookIn hcomponent hmod] at hplace
    have hfile := (Placement.lookIn_eq_ok hplace).2
    have hdirectory : p.scope.directory = top.place.directory.along segments :=
      h.directory_eq habove
    rwa [hdirectory, Path.along_along, Path.along_along] at hfile

/-- The place of a module that an attribute loads. -/
theorem Pending.Follows.of_override {p c : Pending t} {d : Declaration} {target : String}
    (h : p.Follows parse d c) (hinline : d.isInline = false) (ho : d.override = some target) :
    c.place.kind = .external ∧
      c.place.file
        = (if p.place.isInline then p.place.directory else p.place.file.parent).join target ∧
      c.place.directory = c.place.file.parent := by
  have hplace := h.place
  rw [hinline, ho] at hplace
  rw [← Except.ok.inj (Placement.ofDeclaration_override.symm.trans hplace)]
  exact ⟨rfl, rfl, rfl⟩

theorem Pending.file_toModule {p : Pending t} (h : p.place.kind = .external) :
    p.toModule.file = some (t.resolve p.place.file) := by
  simp [Pending.toModule, Placement.isInline, h]

/-- The directory in which a crate lies. -/
def crateDirectory (t : FileTree) (file : Path) : Path := (t.resolve file).parent

/-- `p.SearchesIn directory`: the files of the modules that `p` declares are looked for in the
directory. -/
structure Pending.SearchesIn (p : Pending t) (directory : Path) : Prop where
  directory_eq : p.place.directory = directory
  search_eq : ∀ name, IsComponent name → name ≠ "mod" →
    Placement.ofDeclaration t p.scope name false none = Placement.lookIn t p.scope directory name

theorem Plainly.searchesIn {top p : Pending t} {segments : List String}
    (h : Plainly parse top segments p) (hnames : GoodNames segments) :
    p.SearchesIn (top.place.directory.along segments) := by
  refine ⟨h.directory_eq hnames, fun name hname hmod => ?_⟩
  rw [← h.directory_eq hnames]
  exact Placement.ofDeclaration_eq_lookIn hname hmod

/-! ## A file below an inline module -/

namespace Sample

/-- A crate with an inline module that declares a module in a file. -/
def placedSource : String := "mod a\x7bmod b;\x7d"

/-- The syntax tree of that crate. -/
def placedRoot : Node :=
  node "source_file" placedSource 0 none [
    node "mod_item" placedSource 0 none [
      mark "mod" 0,
      node "identifier" "a" 4 (some "name") [],
      node "declaration_list" "\x7bmod b;\x7d" 5 (some "body") [
        mark "\x7b" 5,
        node "mod_item" "mod b;" 6 none [
          mark "mod" 6,
          node "identifier" "b" 10 (some "name") [],
          mark ";" 11],
        mark "\x7d" 12]]]

/-- The tree with that crate and the file of the inner module, in which there is nothing. -/
def placedTree : FileTree :=
  { entries := [(["lib.rs"], .file (placedSource.toList.map Char.toNat)), (["a"], .directory),
      (["a", "b.rs"], .file [])],
    here := [] }

/-- The declaration of the inline module. -/
def placedDeclaration : Declaration := .mk "a" none (some (.mk [.mk "b" none none] []))

/-- The file of the inner module. -/
def placedFile : Path := ⟨.top, ["a", "b.rs"]⟩

/-- The inline module. -/
def placedOuter : Pending placedTree where
  place := ⟨⟨["a"]⟩, rootFile, .inline, ⟨.top, ["a"]⟩⟩
  above := [["lib.rs"]]
  body := some (.mk [.mk "b" none none] [])
  fresh := by simp

/-- The inner module. -/
def placedInner : Pending placedTree where
  place := ⟨⟨["a", "b"]⟩, placedFile, .external, ⟨.top, ["a", "b"]⟩⟩
  above := [["lib.rs"]]
  body := none
  fresh := by
    have htarget : placedTree.target placedFile = ["a", "b.rs"] := by cbv
    simp [htarget]

theorem items_placedRoot :
    (rootOf placedTree rootFile).items (parser placedSource placedRoot)
      = .ok (.mk [placedDeclaration] []) := by
  have hblock : Block.ofNode placedRoot = .mk [placedDeclaration] [] := by cbv
  rw [items_of_readText (by cbv) rfl, hblock]

theorem declare_placedOuter :
    (rootOf placedTree rootFile).declare placedDeclaration = .ok placedOuter := by
  cbv

theorem declare_placedInner : placedOuter.declare (.mk "b" none none) = .ok placedInner := by
  cbv

theorem items_placedOuter (parse : Source.Parser) :
    placedOuter.items parse = .ok (.mk [.mk "b" none none] []) := rfl

/-- The crate has a graph. -/
theorem exists_graph_placedRoot :
    ∃ g, (graph (parser placedSource placedRoot) placedTree "demo" rootFile).result = .ok g := by
  have hinner : placedInner.items (parser placedSource placedRoot)
      = .error (.notRust placedFile 0 0 "detail") := by
    have htext : Source.readText placedTree placedFile = .ok "" := by cbv
    show Source.readBlock _ placedTree placedFile = _
    rw [Source.readBlock, htext]
    rfl
  have hvisits : Visits (parser placedSource placedRoot) [rootOf placedTree rootFile]
      [rootOf placedTree rootFile, placedOuter, placedInner] :=
    .opened items_placedRoot (.first declare_placedOuter (by simp) .nil)
      (.opened (items_placedOuter _) (.first declare_placedInner (by simp) .nil)
        (.lost hinner (by decide) .done))
  obtain ⟨g, hg, -⟩ := hvisits.exists_built "demo" (by cbv)
  exact ⟨g, hg⟩

theorem plainly_placedInner :
    Plainly (parser placedSource placedRoot) (rootOf placedTree rootFile) ["a", "b"]
      placedInner := by
  have houter : (rootOf placedTree rootFile).Follows (parser placedSource placedRoot)
      placedDeclaration placedOuter :=
    ⟨_, [], [], items_placedRoot, rfl, declare_placedOuter, by simp⟩
  have hinner : placedOuter.Follows (parser placedSource placedRoot) (.mk "b" none none)
      placedInner :=
    ⟨.mk [.mk "b" none none] [], [], [], rfl, rfl, declare_placedInner, by simp⟩
  exact .child (.child .self houter (.inl rfl)) hinner (.inr rfl)

end Sample

/-- **Modules lie where their paths say.**  Every module of a graph but the root is declared by the
module above it.  If no attribute has a part in the declarations from the root to a module, its own
modules are looked for in the directory of its path, and if it has a file, then that is the file or
the `mod.rs` of its path.  The file that an attribute names is taken from the directory of the
declaring file, or from the directory of the declaring module if that one is inline; and what lies
below is looked for by its path from the directory of that file. -/
theorem modules_lie_by_path {unit : String} {g : ModuleGraph}
    (h : (graph parse t unit file).result = .ok g) :
    (∀ segments name m, g.module? ⟨segments ++ [name]⟩ = some m →
      ∃ p d c, Declared parse (rootOf t file) segments p ∧ p.Follows parse d c ∧ d.name = name ∧
        c.toModule = m) ∧
    (∀ segments p, Plainly parse (rootOf t file) segments p → GoodNames segments →
      g.module? ⟨segments⟩ = some p.toModule ∧
      p.SearchesIn ((crateDirectory t file).along segments) ∧
      ∀ above name, segments = above ++ [name] → p.place.kind = .external →
        p.toModule.file = some (t.resolve p.place.file) ∧
        p.place.file =
          if t.isFile ((crateDirectory t file).along (above ++ [name ++ ".rs"])) then
            (crateDirectory t file).along (above ++ [name ++ ".rs"])
          else (crateDirectory t file).along (above ++ [name, "mod.rs"])) ∧
    (∀ segments p d c target, Declared parse (rootOf t file) segments p →
      p.Follows parse d c → d.isInline = false → d.override = some target →
      g.module? ((⟨segments⟩ : ModulePath).child d.name) = some c.toModule ∧
      c.toModule.file = some (t.resolve c.place.file) ∧
      c.place.file
        = (if p.place.isInline then p.place.directory else p.place.file.parent).join target ∧
      ∀ below q, Plainly parse c below q → GoodNames below →
        q.SearchesIn (c.place.file.parent.along below)) := by
  have hb := built_of_graph h
  refine ⟨fun segments name m hm => ?_, fun segments p hp hnames => ?_,
    fun segments p d c target hp hd hinline ho => ?_⟩
  · obtain ⟨c, hc, rfl⟩ := hb.module?_eq_some_iff.1 hm
    obtain ⟨p, d, hp, hd, hn⟩ := hc.exists_follows
    exact ⟨p, d, c, hp, hd, hn, rfl⟩
  · exact ⟨hb.module?_eq_some_iff.2 ⟨p, hp.declared, rfl⟩, hp.searchesIn hnames,
      fun above name hs hk => ⟨Pending.file_toModule hk, hp.file_eq hs hnames hk⟩⟩
  · obtain ⟨hk, hfile, hdirectory⟩ := hd.of_override hinline ho
    refine ⟨hb.module?_eq_some_iff.2 ⟨c, hp.follow hd, rfl⟩, Pending.file_toModule hk, hfile,
      fun below q hq hnames => ?_⟩
    rw [← hdirectory]
    exact hq.searchesIn hnames

/-- In `mod a { mod b; }` the module `a::b` lies in `a/b.rs`. -/
theorem file_below_inline_module :
    ∃ g, (graph (Sample.parser Sample.placedSource Sample.placedRoot) Sample.placedTree "demo"
        Sample.rootFile).result = .ok g ∧
      g.module? ⟨["a", "b"]⟩ = some Sample.placedInner.toModule ∧
      Sample.placedInner.toModule.file
        = some (Sample.placedTree.resolve ⟨.top, ["a", "b.rs"]⟩) := by
  obtain ⟨g, hg⟩ := Sample.exists_graph_placedRoot
  have hnames : GoodNames ["a", "b"] := by
    have ha : IsComponent "a" := isComponent_of_isIdContinue (by decide) (by simp; decide)
    have hb : IsComponent "b" := isComponent_of_isIdContinue (by decide) (by simp; decide)
    simp [GoodNames, ha, hb]
  obtain ⟨hmodule, -, hfile⟩ :=
    (modules_lie_by_path hg).2.1 _ _ Sample.plainly_placedInner hnames
  obtain ⟨hresolved, hplace⟩ := hfile ["a"] "b" rfl rfl
  have hdirectory : crateDirectory Sample.placedTree Sample.rootFile = ⟨.top, []⟩ := by cbv
  have hrs : Sample.placedTree.isFile ((⟨.top, []⟩ : Path).along (["a"] ++ ["b" ++ ".rs"]))
      = true := by cbv
  rw [hdirectory, if_pos hrs] at hplace
  exact ⟨g, hg, hmodule, hresolved.trans (congrArg (some <| Sample.placedTree.resolve ·) hplace)⟩

end Build

end CrateAtlas
