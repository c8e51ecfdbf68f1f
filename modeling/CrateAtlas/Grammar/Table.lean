import Std.Data.HashMap
import CrateAtlas.Grammar.Production

/-!
# Numbered grammars

`Table.ofGrammar` numbers the tokens, rules and productions of a grammar and works out, once, what
every parse needs to know about them:

* `first` — for each rule, the tokens with which a text of that rule can start;
* `corners` — for each rule `B` and symbol `X`, the productions that start with `X` and can stand at
  the left edge of a `B`.  With each comes the set of tokens that can follow it there, and whether
  what follows the `B` can follow it too.

Token number 0 is the end of the text.  A set of tokens is a natural number whose bits say which
tokens are in it.  No production but one of the start rule is empty.
-/

set_option autoImplicit false

namespace CrateAtlas.Grammar

/-- A set of token numbers, as the bits of a natural number. -/
abbrev TokenSet := Nat

/-- The number of a symbol: even for tokens, odd for rules. -/
abbrev SymbolId := Nat

/-- The symbol of a token. -/
def tokenSymbol (t : Nat) : SymbolId := 2 * t

/-- The symbol of a rule. -/
def ruleSymbol (r : Nat) : SymbolId := 2 * r + 1

/-- A step of a numbered production. -/
structure Slot where
  symbol : SymbolId
  rank : Int
  assoc : Option Assoc
  field : Option String
  kind : Option String
deriving Inhabited

/-- A numbered production. -/
structure Line where
  head : Nat
  slots : Array Slot
deriving Inhabited

/-- A production at the left edge of a rule: the tokens that can follow it there, and whether what
follows the rule can follow it. -/
structure Corner where
  line : Nat
  follow : TokenSet
  exposed : Bool
deriving Inhabited

/-- A numbered grammar with its first sets and left edges. -/
structure Table (τ : Type) [BEq τ] [Hashable τ] where
  tokenIds : Std.HashMap τ Nat
  names : Array String
  lines : Array Line
  first : Array TokenSet
  corners : Array (Array (List Corner))

/-! ## First sets -/

/-- The tokens with which a text of the symbol can start. -/
def firstOf (first : Array TokenSet) (s : SymbolId) : TokenSet :=
  if s % 2 = 0 then 1 <<< (s / 2) else first.getD (s / 2) 0

/-- One round of enlarging the first sets. -/
def enlargeFirst (lines : Array Line) (first : Array TokenSet) : Array TokenSet :=
  lines.foldl (fun acc l =>
    match l.slots[0]? with
    | some slot => acc.modify l.head (· ||| firstOf acc slot.symbol)
    | none => acc) first

/-- Applies `f` until nothing changes, at most the given number of times. -/
def saturate {α : Type} [BEq α] (f : α → α) : Nat → α → α
  | 0, a => a
  | n + 1, a =>
    let b := f a
    if a == b then a else saturate f n b

/-! ## Left edges -/

/-- What is known of a rule at the left edge of another: the tokens that can follow it there, and
whether what follows the other can follow it. -/
abbrev Edge := Option (TokenSet × Bool)

/-- Adds to what is known. -/
def Edge.add (follow : TokenSet) (exposed : Bool) : Edge → Edge
  | none => some (follow, exposed)
  | some (f, e) => some (f ||| follow, e || exposed)

/-- For each rule, the rules with which its productions start: the tokens that can follow them
inside the production, and whether some production ends with them. -/
def startEdges (lines : Array Line) (first : Array TokenSet) (n : Nat) :
    Array (List (Nat × TokenSet × Bool)) :=
  let table := lines.foldl (fun (acc : Array (Array Edge)) l =>
    match l.slots[0]? with
    | some slot =>
      if slot.symbol % 2 = 1 then
        let (follow, exposed) := match l.slots[1]? with
          | some next => (firstOf first next.symbol, false)
          | none => (0, true)
        acc.modify l.head (·.modify (slot.symbol / 2) (Edge.add follow exposed))
      else acc
    | none => acc) (Array.replicate n (Array.replicate n none))
  table.map fun row =>
    row.toList.zipIdx.filterMap fun (e, r) => e.map fun (f, x) => (r, f, x)

/-- One round of spreading what is known at the left edge of one rule. -/
def spreadEdges (edges : Array (List (Nat × TokenSet × Bool))) (known : Array Edge) : Array Edge :=
  (List.range known.size).foldl (fun acc b =>
    match acc.getD b none with
    | none => acc
    | some (follow, exposed) =>
      (edges.getD b []).foldl (fun acc (c, f, x) =>
        acc.modify c (Edge.add (if x then f ||| follow else f) (x && exposed))) acc) known

/-- The productions at the left edge of one rule, by the symbol they start with. -/
def cornersOf (lines : Array Line) (edges : Array (List (Nat × TokenSet × Bool))) (n symbols : Nat)
    (rule : Nat) : Array (List Corner) :=
  let known := saturate (spreadEdges edges) n ((Array.replicate n none).set! rule (some (0, true)))
  (List.range lines.size).foldr (fun i acc =>
    let l := lines.getD i default
    match known.getD l.head none, l.slots[0]? with
    | some (follow, exposed), some slot => acc.modify slot.symbol (⟨i, follow, exposed⟩ :: ·)
    | _, _ => acc) (Array.replicate symbols [])

/-! ## Numbering -/

/-- The numbers of the distinct elements of a list, counted from `start`. -/
def number {α : Type} [BEq α] [Hashable α] (start : Nat) (xs : List α) : Std.HashMap α Nat :=
  xs.foldl (fun ids x => if ids.contains x then ids else ids.insert x (start + ids.size)) ∅

/-- The tokens of a list of productions. -/
def tokensOf {τ : Type} (ps : List (Production τ)) : List τ :=
  ps.flatMap fun p => p.steps.filterMap fun s =>
    match s.symbol with
    | .token t => some t
    | .rule _ => none

/-- The numbered grammar of a grammar. -/
def Table.ofGrammar {τ : Type} [BEq τ] [Hashable τ] (g : Grammar τ) : Table τ :=
  let ps := g.productions
  let tokenIds := number 1 (tokensOf ps)
  let names := distinct (ps.map Production.head)
  let ruleIds := number 0 names
  let slot (s : Step τ) : Slot :=
    { symbol := match s.symbol with
        | .token t => tokenSymbol (tokenIds.getD t 0)
        | .rule name => ruleSymbol (ruleIds.getD name 0)
      rank := s.marks.rank.getD 0
      assoc := s.marks.assoc
      field := s.marks.field
      kind := s.marks.kind }
  let lines := (ps.map fun p =>
    { head := ruleIds.getD p.head 0, slots := (p.steps.map slot).toArray : Line }).toArray
  let n := names.length
  let symbols := 2 * max n (tokenIds.size + 1)
  let first := saturate (enlargeFirst lines) (n + 1) (Array.replicate n 0)
  let edges := startEdges lines first n
  { tokenIds, names := names.toArray, lines, first
    corners := (Array.range n).map (cornersOf lines edges n symbols) }

end CrateAtlas.Grammar
