import Mathlib.Data.List.Dedup
import Mathlib.Data.List.Perm.Subperm
import CrateAtlas.Proofs.Discovery

/-!
# The discovery comes to an end

The same file may back many modules, so there is no set of visited files that would bound the
discovery.  What bounds it is that **no file is loaded twice on the way from the root to a module**,
and that inline modules are only nested as deeply as the block they stand in.

* `turns` — the loop of the discovery, turn by turn.  Each turn makes the queue lighter
  (`weight_turn_lt`), so that it is empty after as many turns as it weighs at the start, unless a
  turn has ended the discovery (`turns_eq_discover`).
* `Chain` — modules each of which is declared in the block of the one before.  All but the last of
  those that lie in files of their own lie in different readable ones
  (`Chain.countP_isFileBacked_le`), and inline modules that follow each other are no more than the
  block is deep (`Chain.length_inline_le`).
-/

set_option autoImplicit false

namespace CrateAtlas.Build

variable {t : FileTree} {parse : Source.Parser}

/-! ## Turns of the loop -/

/-- One turn of the loop: the module at the front of the queue is visited. -/
def turn (parse : Source.Parser) :
    List (Pending t) × Progress → Except Failure (List (Pending t) × Progress)
  | ([], s) => .ok ([], s)
  | (p :: queue, s) =>
    match visit parse p s with
    | .error f => .error f
    | .ok (s', added) => .ok (queue ++ added, s')

/-- A number of turns, as long as none ends the discovery. -/
def turns (parse : Source.Parser) :
    Nat → List (Pending t) × Progress → Except Failure (List (Pending t) × Progress)
  | 0, w => .ok w
  | n + 1, w =>
    match turn parse w with
    | .error f => .error f
    | .ok w' => turns parse n w'

/-- How many modules depth-first walks from the modules of a queue would visit. -/
def weight (parse : Source.Parser) (queue : List (Pending t)) : Nat :=
  (queue.flatMap (Pending.visits parse)).length

theorem weight_cons (p : Pending t) (queue : List (Pending t)) :
    weight parse (p :: queue) = (p.visits parse).length + weight parse queue := by
  rw [weight, List.flatMap_cons, List.length_append, weight]

theorem weight_append (queue queue' : List (Pending t)) :
    weight parse (queue ++ queue') = weight parse queue + weight parse queue' := by
  rw [weight, List.flatMap_append, List.length_append, weight, weight]

theorem one_le_visits (parse : Source.Parser) (p : Pending t) : 1 ≤ (p.visits parse).length := by
  cases hi : p.items parse with
  | error fault => simp [Pending.visits_of_error hi]
  | ok block =>
    rw [Pending.visits_of_ok hi, List.length_cons]
    omega

theorem settle_of_settled {p : Pending t} {g g' : ModuleGraph} {ds : List Declaration}
    {added : List (Pending t)} (h : settled p g ds = .ok (g', added)) :
    ∃ log, settle p g ds = .ok (g', added, log) := by
  rw [settled] at h
  cases hs : settle p g ds with
  | error f =>
    rw [hs] at h
    cases h
  | ok r =>
    rw [hs] at h
    cases h
    exact ⟨r.2.2, rfl⟩

/-- What a module sends to the queue is lighter than the module. -/
theorem weight_visit_lt {p : Pending t} {s s' : Progress} {added : List (Pending t)}
    (h : visit parse p s = .ok (s', added)) :
    weight parse added < (p.visits parse).length := by
  rw [visit] at h
  split at h
  · rename_i fault hi
    split at h
    · cases h
    · split at h
      · cases h
      · cases h
        exact one_le_visits parse p
  · rename_i block hi
    split at h
    · cases h
    · rename_i hs
      cases h
      obtain ⟨log, hlog⟩ := settle_of_settled hs
      have hle := visits_settle_le parse hlog
      rw [Pending.visits_of_ok hi, weight, List.length_cons]
      omega

theorem weight_turn_lt {p : Pending t} {queue queue' : List (Pending t)} {s s' : Progress}
    (h : turn parse (p :: queue, s) = .ok (queue', s')) :
    weight parse queue' < weight parse (p :: queue) := by
  rw [turn] at h
  split at h
  · cases h
  · rename_i hv
    cases h
    have hlt := weight_visit_lt hv
    rw [weight_append, weight_cons]
    omega

/-- **The queue is empty after as many turns as it weighs**, and what is known then is what the
discovery gives. -/
theorem turns_eq_discover {n : Nat} {queue : List (Pending t)} {s : Progress}
    (hn : weight parse queue ≤ n) :
    turns parse n (queue, s) = (discover parse queue s).result.map fun s' => ([], s') := by
  induction n generalizing queue s with
  | zero =>
    cases queue with
    | nil => rw [discover]; rfl
    | cons p queue =>
      have hp := one_le_visits parse p
      rw [weight_cons] at hn
      omega
  | succ n ih =>
    cases queue with
    | nil =>
      rw [turns, turn]
      exact ih (by simp [weight])
    | cons p queue =>
      rw [discover_cons, turns, turn]
      cases hv : visit parse p s with
      | error f => rfl
      | ok r =>
        obtain ⟨s', added⟩ := r
        -- The turn has made the queue lighter, so one turn less is enough for the rest.
        refine ih ?_
        have ht : turn parse (p :: queue, s) = .ok (queue ++ added, s') := by rw [turn, hv]
        have hlt := weight_turn_lt ht
        omega

/-! ## Chains of declarations -/

/-- The locations of the files that can be read as text, each of them once. -/
def readable (t : FileTree) : List Location :=
  t.files.dedup.filter fun l =>
    match t.entryAt? l with
    | some (.file octets) => !t.denies l .read && (Text.decode octets).toBool
    | _ => false

theorem mem_readable_of_readBlock {file : Path} {block : Block}
    (h : Source.readBlock parse t file = .ok block) : t.target file ∈ readable t := by
  refine List.mem_filter.2 ⟨List.mem_dedup.2 (Source.mem_files_of_readBlock h), ?_⟩
  rw [Source.readBlock, Source.readText] at h
  cases hr : t.read file with
  | error fault => simp [hr] at h
  | ok octets =>
    obtain ⟨l, hlocate, hentry, hdenied⟩ := FileTree.read_eq_ok hr
    cases hd : Text.decode octets with
    | error fault => simp [hr, hd] at h
    | ok cs => simp [FileTree.target_of_locate hlocate, hentry, hdenied, hd, Except.toBool]

/-- Whether a module lies in a file of its own. -/
def Pending.isFileBacked (p : Pending t) : Bool := !p.place.isInline

/-- **Chains of declarations**, the innermost module first: each module is declared in the block of
the next one, and the last one is the root. -/
inductive Chain (parse : Source.Parser) (root : Pending t) : List (Pending t) → Prop
  | root : Chain parse root [root]
  | declare {p c : Pending t} {ps : List (Pending t)} {block : Block} {d : Declaration}
      (h : Chain parse root (p :: ps)) (hi : p.items parse = .ok block)
      (hm : d ∈ block.declarations) (hd : p.declare d = .ok c) : Chain parse root (c :: p :: ps)

namespace Chain

variable {file : Path} {ps : List (Pending t)} {p : Pending t}

/-- The modules without a body are those that lie in files of their own. -/
theorem isFileBacked_iff (h : Chain parse (Pending.root t file) (p :: ps)) :
    p.isFileBacked = true ↔ p.body = none := by
  cases h with
  | root => exact iff_of_true rfl rfl
  | declare _ _ _ hd =>
    rw [Pending.isFileBacked, Placement.isInline, Pending.kind_of_declare hd]
    cases p.body <;> simp

theorem exists_body (h : Chain parse (Pending.root t file) (p :: ps))
    (hp : p.isFileBacked = false) : ∃ body, p.body = some body := by
  rw [← Option.ne_none_iff_exists', Ne, ← h.isFileBacked_iff, hp]
  simp

/-- The files loaded on the way to a module are readable, and none of them is loaded twice; there is
one for each module above that lies in a file of its own. -/
theorem above (h : Chain parse (Pending.root t file) (p :: ps)) :
    p.above.Nodup ∧ p.above ⊆ readable t ∧
      p.above.length = ps.countP Pending.isFileBacked := by
  generalize hq : p :: ps = modules at h
  induction h generalizing p ps with
  | root =>
    cases hq
    exact ⟨List.nodup_nil, List.nil_subset _, rfl⟩
  | @declare q c qs block d h hi hm hd ih =>
    cases hq
    obtain ⟨hnodup, hsub, hlen⟩ := ih rfl
    obtain ⟨-, habove, -, -⟩ := Pending.declare_eq_ok hd
    have hb := h.isFileBacked_iff
    -- A module with a body has loaded nothing.  Any other has just been read, so its file is a
    -- readable one, and none of those above.
    rw [habove, List.countP_cons, ← hlen]
    cases hbody : q.body with
    | some own =>
      have hchain : q.chain = q.above := by rw [Pending.chain, hbody]
      rw [hchain, if_neg (by simp [hb, hbody])]
      exact ⟨hnodup, hsub, rfl⟩
    | none =>
      have hchain : q.chain = t.target q.place.file :: q.above := by
        rw [Pending.chain, hbody]
      rw [Pending.items, hbody] at hi
      rw [hchain, if_pos (hb.2 hbody)]
      refine ⟨List.nodup_cons.2 ⟨q.fresh hbody, hnodup⟩, ?_, List.length_cons⟩
      exact List.cons_subset.2 ⟨mem_readable_of_readBlock hi, hsub⟩

/-- **Files on a chain**: at most one more than there are readable files. -/
theorem countP_isFileBacked_le (h : Chain parse (Pending.root t file) ps) :
    ps.countP Pending.isFileBacked ≤ (readable t).length + 1 := by
  cases ps with
  | nil => simp
  | cons p ps =>
    obtain ⟨hnodup, hsub, hlen⟩ := h.above
    have hle := (hnodup.subperm hsub).length_le
    rw [List.countP_cons]
    split <;> omega

/-- The body of an inline module leaves less room for nesting than the blocks around it. -/
theorem depth_add_length_le {inner : List (Pending t)} {block body : Block} {c : Pending t}
    (h : Chain parse (Pending.root t file) (c :: inner ++ p :: ps))
    (hi : p.items parse = .ok block) (hinner : ∀ q ∈ inner, q.isFileBacked = false)
    (hbody : c.body = some body) : body.depth + (c :: inner).length ≤ block.depth := by
  induction inner generalizing c body with
  | nil =>
    cases h with
    | declare h hi' hm hd =>
      obtain rfl := Except.ok.inj (hi.symm.trans hi')
      have hlt := Block.depth_lt hm ((Pending.declare_eq_ok hd).2.2.1 ▸ hbody)
      simp only [List.length_cons, List.length_nil]
      omega
  | cons q inner ih =>
    cases h with
    | declare h hi' hm hd =>
      obtain ⟨own, hown⟩ := h.exists_body (hinner q List.mem_cons_self)
      rw [Pending.items, hown] at hi'
      cases hi'
      have hle := ih h (fun q hq => hinner q (List.mem_cons_of_mem _ hq)) hown
      have hlt := Block.depth_lt hm ((Pending.declare_eq_ok hd).2.2.1 ▸ hbody)
      simp only [List.length_cons] at hle ⊢
      omega

/-- **Inline modules on a chain**: no more follow a module than its block is deep. -/
theorem length_inline_le {inner : List (Pending t)} {block : Block}
    (h : Chain parse (Pending.root t file) (inner ++ p :: ps)) (hi : p.items parse = .ok block)
    (hinner : ∀ q ∈ inner, q.isFileBacked = false) : inner.length ≤ block.depth := by
  cases inner with
  | nil => exact Nat.zero_le _
  | cons c inner =>
    obtain ⟨body, hbody⟩ := h.exists_body (hinner c List.mem_cons_self)
    have hle := h.depth_add_length_le hi (fun q hq => hinner q (List.mem_cons_of_mem _ hq)) hbody
    omega

end Chain

/-- Each module of a crate stands at the inner end of a chain, with one module for each segment of
its path above it. -/
theorem Declared.exists_chain {root p : Pending t} {segments : List String}
    (h : Declared parse root segments p) :
    ∃ ps, Chain parse root (p :: ps) ∧ ps.length = segments.length := by
  induction h with
  | root => exact ⟨[], .root, rfl⟩
  | @child _ _ p _ _ _ hi hf ih =>
    obtain ⟨ps, hps, hlen⟩ := ih
    obtain ⟨d, hm, -, hd⟩ := hf.exists_declare
    exact ⟨p :: ps, .declare hps hi hm hd, by simp [hlen]⟩

end CrateAtlas.Build
