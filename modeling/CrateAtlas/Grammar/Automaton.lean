import CrateAtlas.Grammar.Table

/-!
# The automaton of a grammar

An *item* is a production with a dot in it, which says how much of the production has been read,
and the set of tokens that may follow the production where it stands.  A *kernel* is the set of
items that are possible after the symbols read so far; it is all the parser has to know about them.

* `Table.goto` gives the kernel after one more symbol.  It reads the left edges of the grammar
  instead of listing every item that could start here.
* `Table.decide` says what the parser does when it sees a token: take it, or finish a production.

**Conflicts.**  Where both are possible the precedence decides.  A production is finished only if
its precedence is the highest among those that could be finished.  Taking the token is compared with
that: the higher precedence wins, and between equals a production that leans to the left is finished
and one that leans to the right is not.  What is left undecided is tried both ways.

`Automaton` numbers the kernels as the parser meets them and remembers the moves between them.
-/

set_option autoImplicit false

namespace CrateAtlas.Grammar

/-- A production with a dot in it, and the tokens that may follow the production. -/
structure Item where
  line : Nat
  dot : Nat
  ahead : TokenSet
deriving BEq, Hashable, Inhabited

/-- The items that are possible after the symbols read so far. -/
abbrev Kernel := Array Item

/-- The order of items by production and dot. -/
def Item.before (a b : Item) : Bool := a.line < b.line || (a.line = b.line && a.dot < b.dot)

/-- Joins items that differ only in what may follow them. -/
def mergeItems (items : Array Item) : Kernel :=
  (items.qsort Item.before).foldl (fun acc i =>
    match acc.back? with
    | some j =>
      if j.line = i.line && j.dot = i.dot then
        acc.pop.push { j with ahead := j.ahead ||| i.ahead }
      else acc.push i
    | none => acc.push i) #[]

namespace Table

variable {τ : Type} [BEq τ] [Hashable τ]

/-- The step after the dot. -/
def slot? (t : Table τ) (i : Item) : Option Slot :=
  match t.lines[i.line]? with
  | some l => l.slots[i.dot]?
  | none => none

/-- The tokens that can come after the step behind the dot. -/
def afterNext (t : Table τ) (i : Item) : TokenSet :=
  match t.slot? { i with dot := i.dot + 1 } with
  | some slot => firstOf t.first slot.symbol
  | none => i.ahead

/-- The kernel after one more symbol. -/
def goto (t : Table τ) (k : Kernel) (x : SymbolId) : Kernel :=
  mergeItems (k.foldl (fun acc i =>
    match t.slot? i with
    | none => acc
    | some slot =>
      let acc := if slot.symbol = x then acc.push { i with dot := i.dot + 1 } else acc
      if slot.symbol % 2 = 1 then
        let after := t.afterNext i
        ((t.corners.getD (slot.symbol / 2) #[]).getD x []).foldl (fun acc c =>
          acc.push ⟨c.line, 1, if c.exposed then c.follow ||| after else c.follow⟩) acc
      else acc) #[])

/-- The tokens that the parser can make use of. -/
def allowed (t : Table τ) (k : Kernel) : TokenSet :=
  k.foldl (fun acc i =>
    match t.slot? i with
    | some slot => acc ||| firstOf t.first slot.symbol
    | none => acc ||| i.ahead) 0

/-- What the parser does when it sees a token. -/
structure Decision where
  /-- Whether the token is taken. -/
  shift : Bool
  /-- The productions that are finished. -/
  finish : List Nat

/-- The precedence and lean of the step before the dot. -/
def lastMark (t : Table τ) (i : Item) : Int × Option Assoc :=
  match t.slot? { i with dot := i.dot - 1 } with
  | some slot => (slot.rank, slot.assoc)
  | none => (0, none)

/-- The items that are complete and may be followed by the token, with their precedence. -/
def finishable (t : Table τ) (k : Kernel) (token : Nat) : List (Nat × Int × Option Assoc) :=
  k.toList.filterMap fun i =>
    match t.slot? i with
    | none => if i.ahead.testBit token then some (i.line, t.lastMark i) else none
    | some _ => none

/-- The precedences of the items that can take the token; `none` for an item that has just
started. -/
def takeable (t : Table τ) (k : Kernel) (token : Nat) : List (Option Int) :=
  k.toList.filterMap fun i =>
    match t.slot? i with
    | some slot =>
      if (firstOf t.first slot.symbol).testBit token then
        some (if i.dot = 0 then none else some (t.lastMark i).1)
      else none
    | none => none

/-- Settles a conflict between taking the token and finishing a production. -/
def settle (ranks : List Int) (best : Int) (leans : List (Option Assoc)) (finish : List Nat) :
    Decision :=
  let less := ranks.any (· < best)
  let more := ranks.any (best < ·)
  if more && !less then ⟨true, []⟩
  else if less && !more then ⟨false, finish⟩
  else if less || more then ⟨true, finish⟩
  else if leans.all (· = some .left) then ⟨false, finish⟩
  else if leans.all (· = some .right) then ⟨true, []⟩
  else ⟨true, finish⟩

/-- What the parser does when it sees the token. -/
def decide (t : Table τ) (k : Kernel) (token : Nat) : Decision :=
  let ready := t.finishable k token
  let ranks := t.takeable k token
  match ready with
  | [] => ⟨!ranks.isEmpty, []⟩
  | (_, rank, _) :: rest =>
    let best := rest.foldl (fun b (_, r, _) => max b r) rank
    let chosen := ready.filter fun (_, r, _) => r = best
    let finish := chosen.map Prod.fst
    if ranks.isEmpty then ⟨false, finish⟩
    else settle (ranks.filterMap id) best (chosen.map fun (_, _, a) => a) finish

/-- The kernel with which a parse starts: the productions of the start rule, followed by the end of
the text. -/
def startKernel (t : Table τ) : Kernel :=
  (Array.range t.lines.size).filterMap fun i =>
    if (t.lines.getD i default).head = 0 then some ⟨i, 0, 1⟩ else none

end Table

/-! ## Numbered kernels -/

/-- The kernels met so far and the moves between them. -/
structure Automaton where
  kernels : Array Kernel
  /-- For each kernel, the tokens that are of use. -/
  allowed : Array TokenSet
  index : Std.HashMap Kernel Nat
  moves : Std.HashMap (Nat × SymbolId) Nat

namespace Automaton

variable {τ : Type} [BEq τ] [Hashable τ]

/-- The automaton that knows the start kernel only. -/
def start (t : Table τ) : Automaton :=
  ⟨#[t.startKernel], #[t.allowed t.startKernel],
    (∅ : Std.HashMap Kernel Nat).insert t.startKernel 0, ∅⟩

/-- The kernel with the given number. -/
def kernel (a : Automaton) (s : Nat) : Kernel := a.kernels.getD s #[]

/-- The tokens that are of use at the kernel with the given number. -/
def allowedAt (a : Automaton) (s : Nat) : TokenSet := a.allowed.getD s 0

/-- The number of a kernel, which is added if it is new. -/
def intern (t : Table τ) (a : Automaton) (k : Kernel) : Nat × Automaton :=
  match a.index[k]? with
  | some n => (n, a)
  | none =>
    (a.kernels.size,
      { a with
        kernels := a.kernels.push k
        allowed := a.allowed.push (t.allowed k)
        index := a.index.insert k a.kernels.size })

/-- The kernel after one more symbol. -/
def move (t : Table τ) (a : Automaton) (s : Nat) (x : SymbolId) : Nat × Automaton :=
  match a.moves[(s, x)]? with
  | some n => (n, a)
  | none =>
    let (n, a) := intern t a (t.goto (a.kernel s) x)
    (n, { a with moves := a.moves.insert (s, x) n })

end Automaton

end CrateAtlas.Grammar
