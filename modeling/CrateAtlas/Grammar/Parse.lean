import CrateAtlas.Grammar.Automaton
import CrateAtlas.Syntax.Node

/-!
# Parsing

`Language.parse?` reads a text by a grammar and gives its syntax tree, or `none` if the text is not
in the language.

The parser keeps a stack of entries, each with the number of the kernel it leads to and the nodes it
stands for.  A step looks at the next token and either takes it or finishes a production, which
replaces the entries of its steps by one.  Tokens are read *on demand*: the scanner is told which
tokens the parser can make use of here, so that one spelling can be read in different ways in
different places.

Where a conflict is left undecided the parse splits into *versions*, each with a stack of its own.
The version that is behind in the text moves first, equal versions are merged, and a version that
cannot go on is dropped.

**Comments** may stand anywhere.  They are put on the stack as entries of their own, become children
of the production that is finished around them, and stay outside of one that ends before them.
-/

set_option autoImplicit false

namespace CrateAtlas.Grammar

/-- A place in a text: the characters from here on, how many came before, and row and column. -/
structure Cursor where
  rest : List Char
  offset : Nat
  point : Point
deriving Inhabited

/-- The place at the start of a text. -/
def Cursor.start (text : List Char) : Cursor := ⟨text, 0, ⟨0, 0⟩⟩

/-- The place after the next `n` characters. -/
def Cursor.advance (c : Cursor) : Nat → Cursor
  | 0 => c
  | n + 1 =>
    match c.rest with
    | [] => c
    | ch :: cs =>
      let point := if ch = '\n' then ⟨c.point.row + 1, 0⟩
        else ⟨c.point.row, c.point.column + ch.utf8Size⟩
      Cursor.advance ⟨cs, c.offset + 1, point⟩ n

theorem Cursor.rest_advance (c : Cursor) (n : Nat) : (c.advance n).rest = c.rest.drop n := by
  induction n generalizing c with
  | zero => simp [Cursor.advance]
  | succ n ih =>
    rw [Cursor.advance]
    split <;> simp_all

/-- A stretch of the text: a comment, or a token. -/
structure Stretch where
  from_ : Cursor
  upto : Cursor
deriving Inhabited

/-- The text of a stretch. -/
def Stretch.text (s : Stretch) : String :=
  String.ofList (s.from_.rest.take (s.upto.offset - s.from_.offset))

/-- What the scanner finds: comments with their kinds, and then a token or the end of the text. -/
structure Scanned (τ : Type) where
  comments : List (String × Stretch)
  token : Option τ
  stretch : Stretch

/-- A language: a numbered grammar, a scanner that is told which tokens are of use, and how tokens
appear in the tree. -/
structure Language (τ : Type) [BEq τ] [Hashable τ] where
  table : Table τ
  scan : (τ → Bool) → Cursor → Option (Scanned τ)
  kind : τ → String
  isNamed : τ → Bool

/-- An entry of the stack: the kernel it leads to, its nodes and the stretch of text they cover.
A comment leads to the kernel below it. -/
structure Entry where
  state : Nat
  nodes : Array Node
  from_ : Nat
  upto : Nat
  start : Point
  isComment : Bool
deriving Inhabited

/-- One way of reading the text so far. -/
structure Version where
  stack : List Entry
  state : Nat
  cursor : Cursor

/-- Whether two versions have the same future. -/
def Version.same (a b : Version) : Bool :=
  a.cursor.offset = b.cursor.offset && a.state = b.state &&
    a.stack.map Entry.state == b.stack.map Entry.state

/-! ## Building nodes -/

/-- A node of a sound tree. -/
def soundNode (kind : String) (text : String) (named : Bool) (start : Point)
    (children : List Node) : Node :=
  ⟨kind, some text, named, false, false, start, none, children⟩

/-- Gives the nodes of one step the field and kind of the step.  The field goes to the first node,
unless that is filed already; a new kind makes the node a named one. -/
def markNodes (slot : Slot) (nodes : Array Node) : Array Node :=
  let nodes := match slot.kind with
    | some kind => nodes.modify 0 fun n => { n with kind, named := true }
    | none => nodes
  match slot.field with
  | some field => nodes.modify 0 fun n => { n with field := n.field.or (some field) }
  | none => nodes

/-- Takes the topmost comments off a stack. -/
def splitComments : List Entry → List Entry × List Entry
  | [] => ([], [])
  | e :: es =>
    if e.isComment then
      let (cs, rest) := splitComments es
      (e :: cs, rest)
    else ([], e :: es)

/-- Takes entries off a stack until `n` of them are not comments; the last one taken comes
first. -/
def takeEntries : Nat → List Entry → List Entry → List Entry × List Entry
  | 0, taken, stack => (taken, stack)
  | _, taken, [] => (taken, [])
  | n + 1, taken, e :: es =>
    if e.isComment then takeEntries (n + 1) (e :: taken) es else takeEntries n (e :: taken) es
termination_by n _ stack => (stack.length, n)

/-- The nodes of the entries of a production, with the marks of its steps. -/
def joinNodes : List Slot → List Entry → Array Node → Array Node
  | _, [], acc => acc
  | [], e :: es, acc => joinNodes [] es (acc ++ e.nodes)
  | s :: ss, e :: es, acc =>
    if e.isComment then joinNodes (s :: ss) es (acc ++ e.nodes)
    else joinNodes ss es (acc ++ markNodes s e.nodes)

/-! ## Steps -/

variable {τ : Type} [BEq τ] [Hashable τ]

/-- Puts an entry on the stack of a version. -/
def Version.push (v : Version) (e : Entry) : Version :=
  { v with stack := e :: v.stack, state := e.state }

/-- Puts the comments before a token on the stack. -/
def Version.pushComments (v : Version) (comments : List (String × Stretch)) : Version :=
  comments.foldl (fun v (kind, s) =>
    { v.push ⟨v.state, #[soundNode kind s.text true s.from_.point []], s.from_.offset,
        s.upto.offset, s.from_.point, true⟩ with cursor := s.upto }) v

/-- Takes a token. -/
def Version.shift (lang : Language τ) (v : Version) (t : τ) (s : Stretch) (a : Automaton) :
    Version × Automaton :=
  let id := lang.table.tokenIds.getD t 0
  let (state, a) := a.move lang.table v.state (tokenSymbol id)
  let node := soundNode (lang.kind t) s.text (lang.isNamed t) s.from_.point []
  ({ v.push ⟨state, #[node], s.from_.offset, s.upto.offset, s.from_.point, false⟩ with
      cursor := s.upto }, a)

/-- The entries of a finished production and the stack below them, with the comments that come
after the production. -/
def Version.finished (lang : Language τ) (v : Version) (line : Nat) :
    Line × List Entry × List Entry × List Entry :=
  let l := lang.table.lines.getD line default
  let (after, stack) := splitComments v.stack
  let (taken, below) := takeEntries l.slots.size [] stack
  (l, taken, below, after)

/-- The node of a finished production. -/
def nodeOf (source : Array Char) (name : String) (l : Line) (taken : List Entry) : Entry :=
  let nodes := joinNodes l.slots.toList taken #[]
  let first := taken.head?.getD default
  let last := taken.getLast?.getD default
  let nodes :=
    if isHidden name then nodes
    else
      let text := String.ofList (source.extract first.from_ last.upto).toList
      #[soundNode name text true first.start nodes.toList]
  ⟨0, nodes, first.from_, last.upto, first.start, false⟩

/-- Finishes a production. -/
def Version.finish (lang : Language τ) (source : Array Char) (v : Version) (line : Nat)
    (a : Automaton) : Version × Automaton :=
  let (l, taken, below, after) := v.finished lang line
  let entry := nodeOf source (lang.table.names.getD l.head "") l taken
  let under := (below.head?.map Entry.state).getD 0
  let (state, a) := a.move lang.table under (ruleSymbol l.head)
  let after := after.map fun e => { e with state }
  ({ v with stack := after ++ { entry with state } :: below, state }, a)

/-- The tree of a text whose start rule is finished by the given production: every entry of the
stack belongs to it. -/
def Version.root (lang : Language τ) (source : Array Char) (v : Version) (line : Nat) : Node :=
  let l := lang.table.lines.getD line default
  let nodes := joinNodes l.slots.toList v.stack.reverse #[]
  let start := (v.stack.getLast?.map Entry.start).getD ⟨0, 0⟩
  let from_ := (v.stack.getLast?.map Entry.from_).getD 0
  soundNode (lang.table.names.getD l.head "") (String.ofList (source.toList.drop from_)) true start
    nodes.toList

/-- What a step of a version leads to: other versions, or the tree of the whole text. -/
inductive Progress where
  | versions (vs : List Version)
  | done (tree : Node)

/-- One step of a version. -/
def Version.step (lang : Language τ) (source : Array Char) (v : Version) (a : Automaton) :
    Progress × Automaton :=
  let kernel := a.kernel v.state
  let allowed := a.allowedAt v.state
  let isAllowed (t : τ) : Bool :=
    match lang.table.tokenIds[t]? with
    | some id => allowed.testBit id
    | none => false
  match lang.scan isAllowed v.cursor with
  | none => (.versions [], a)
  | some found =>
    let v := v.pushComments found.comments
    let id := match found.token with
      | some t => lang.table.tokenIds.getD t 0
      | none => 0
    let decision := lang.table.decide kernel id
    match decision.finish.find? fun line => (lang.table.lines.getD line default).head = 0 with
    | some line => (.done (v.root lang source line), a)
    | none =>
      let (vs, a) := decision.finish.foldl (fun (vs, a) line =>
        let (w, a) := v.finish lang source line a
        (w :: vs, a)) (([] : List Version), a)
      match found.token with
      | some t =>
        if decision.shift then
          let (w, a) := v.shift lang t found.stretch a
          (.versions (w :: vs), a)
        else (.versions vs, a)
      | none => (.versions vs, a)

/-- Adds versions to a list in the order of their places in the text, without repetition. -/
def addVersion (v : Version) : List Version → List Version
  | [] => [v]
  | w :: ws =>
    if v.same w then w :: ws
    else if v.cursor.offset < w.cursor.offset then v :: w :: ws
    else w :: addVersion v ws

/-- Runs the versions until one has read the whole text. -/
def run (lang : Language τ) (source : Array Char) : Nat → List Version → Automaton → Option Node
  | 0, _, _ => none
  | _ + 1, [], _ => none
  | fuel + 1, v :: vs, a =>
    match v.step lang source a with
    | (.done tree, _) => some tree
    | (.versions ws, a) => run lang source fuel (ws.foldr addVersion vs) a

/-- More steps than a parse of a text of the given length takes. -/
def stepBound (length : Nat) : Nat := 4096 * (length + 16)

/-- The syntax tree of a text. -/
def Language.parse? (lang : Language τ) (text : String) : Option Node :=
  let source := text.toList
  run lang source.toArray (stepBound source.length) [⟨[], 0, Cursor.start source⟩]
    (Automaton.start lang.table)

end CrateAtlas.Grammar
