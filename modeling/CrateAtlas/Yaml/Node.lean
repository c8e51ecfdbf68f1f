import CrateAtlas.Yaml.Tag
import CrateAtlas.Yaml.Token.Scan

/-!
# The tree of a YAML text

A YAML text holds a tree of scalars, sequences and mappings, each with a tag.  A text without a
document has no tree; a text with more than one is refused.

An **anchor** names a node, and a reference later in the text stands for the whole node.  A
reference to a collection from inside itself stands for an empty collection of the same kind.  An
anchor may be given only once.
-/

set_option autoImplicit false

namespace CrateAtlas.Yaml

/-- A node of a YAML text. -/
inductive Node where
  | scalar (tag : Tag) (text : String)
  | sequence (tag : Tag) (items : List Node)
  | mapping (tag : Tag) (entries : List (Node × Node))

namespace Node

/-- The node where nothing is written. -/
def empty : Node := .scalar .null ""

/-- The tag of a node. -/
def tag : Node → Tag
  | .scalar tag _ => tag
  | .sequence tag _ => tag
  | .mapping tag _ => tag

end Node

/-- The tokens still to be read, the short forms of tags, and the nodes with anchors. -/
structure Reading where
  tokens : List Token
  handles : List (String × String)
  anchors : List (String × Node)

namespace Reading

/-- The short forms of tags that need no directive. -/
def basicHandles : List (String × String) := [("!", "!"), ("!!", Tag.basicSpace)]

/-- The next token. -/
def peek (r : Reading) : Token := r.tokens.headD .streamEnd

/-- What is left after the next token. -/
def tail (r : Reading) : Reading := { r with tokens := r.tokens.tail }

/-- Names a node by an anchor. -/
def name (r : Reading) (anchor : Option String) (n : Node) : Reading :=
  match anchor with
  | some a => { r with anchors := (a, n) :: r.anchors }
  | none => r

/-- The text of a tag whose short form is resolved. -/
def expand (r : Reading) (handle : Option String) (rest : String) : Except Fault String :=
  match handle with
  | none => .ok rest
  | some h =>
    match r.handles.lookup h with
    | some space => .ok (space ++ rest)
    | none => .error .invalid

/-- The anchor and the tag before a node, in either order. -/
def properties (r : Reading) : Except Fault (Option String × Option String × Reading) :=
  match r.tokens with
  | .anchor a :: .tag h x :: rest => do
    return (some a, some (← r.expand h x), { r with tokens := rest })
  | .tag h x :: .anchor a :: rest => do
    return (some a, some (← r.expand h x), { r with tokens := rest })
  | .anchor a :: rest => .ok (some a, none, { r with tokens := rest })
  | .tag h x :: rest => do return (none, some (← r.expand h x), { r with tokens := rest })
  | _ => .ok (none, none, r)

/-- The tag of a node, from the tag that is written and the one it has otherwise.  A lone
exclamation mark asks for the latter. -/
def tagOr (written : Option String) (otherwise : Tag) : Tag :=
  match written with
  | none | some "!" => otherwise
  | some text => .ofText text

mutual

/-- Reads a node.  Block collections are only seen if `block` is set, and a sequence whose dashes
are not indented only if `flush` is set. -/
def node (block flush : Bool) : Nat → Reading → Except Fault (Node × Reading)
  | 0, _ => .error .invalid
  | fuel + 1, r =>
    match r.peek with
    | .reference a =>
      match r.anchors.lookup a with
      | some n => .ok (n, r.tail)
      | none => .error .invalid
    | _ => do
      let (anchor, written, r) ← r.properties
      if anchor.any fun a => (r.anchors.lookup a).isSome then throw .invalid
      let ofItems := Node.sequence (tagOr written .sequence)
      let ofEntries := Node.mapping (tagOr written .mapping)
      let inSequence := r.name anchor (ofItems [])
      let inMapping := r.name anchor (ofEntries [])
      match r.peek, block, flush with
      | .item, _, true =>
        let (items, r) ← flushItems fuel inSequence
        return (ofItems items, r.name anchor (ofItems items))
      | .scalar text isPlain, _, _ =>
        let otherwise := if isPlain || written.isSome then .ofPlain text else .text
        let n := Node.scalar (tagOr written otherwise) text
        return (n, r.tail.name anchor n)
      | .flowSequence, _, _ =>
        let (items, r) ← flowItems true fuel inSequence.tail
        return (ofItems items, r.name anchor (ofItems items))
      | .flowMapping, _, _ =>
        let (entries, r) ← flowEntries true fuel inMapping.tail
        return (ofEntries entries, r.name anchor (ofEntries entries))
      | .blockSequence, true, _ =>
        let (items, r) ← blockItems fuel inSequence.tail
        return (ofItems items, r.name anchor (ofItems items))
      | .blockMapping, true, _ =>
        let (entries, r) ← blockEntries fuel inMapping.tail
        return (ofEntries entries, r.name anchor (ofEntries entries))
      | _, _, _ =>
        if anchor.isSome || written.isSome then
          let n := Node.scalar (tagOr written .null) ""
          return (n, r.name anchor n)
        else throw .invalid

/-- Reads a node, or an empty one before one of the given tokens. -/
def nodeUnless (stops : List Token) (block flush : Bool) :
    Nat → Reading → Except Fault (Node × Reading)
  | 0, _ => .error .invalid
  | fuel + 1, r => if stops.contains r.peek then .ok (.empty, r) else node block flush fuel r

/-- Reads the items of a block sequence, to its end. -/
def blockItems : Nat → Reading → Except Fault (List Node × Reading)
  | 0, _ => .error .invalid
  | fuel + 1, r =>
    match r.peek with
    | .item => do
      let (n, r) ← nodeUnless [.item, .blockEnd] true false fuel r.tail
      let (ns, r) ← blockItems fuel r
      return (n :: ns, r)
    | .blockEnd => .ok ([], r.tail)
    | _ => .error .invalid

/-- Reads the items of a sequence whose dashes are not indented. -/
def flushItems : Nat → Reading → Except Fault (List Node × Reading)
  | 0, _ => .error .invalid
  | fuel + 1, r =>
    match r.peek with
    | .item => do
      let (n, r) ← nodeUnless [.item, .key, .value, .blockEnd] true false fuel r.tail
      let (ns, r) ← flushItems fuel r
      return (n :: ns, r)
    | _ => .ok ([], r)

/-- Reads the value of an entry of a block mapping, if there is one. -/
def blockValue : Nat → Reading → Except Fault (Node × Reading)
  | 0, _ => .error .invalid
  | fuel + 1, r =>
    match r.peek with
    | .value => nodeUnless [.key, .value, .blockEnd] true true fuel r.tail
    | _ => .ok (.empty, r)

/-- Reads the entries of a block mapping, to its end. -/
def blockEntries : Nat → Reading → Except Fault (List (Node × Node) × Reading)
  | 0, _ => .error .invalid
  | fuel + 1, r =>
    match r.peek with
    | .key => do
      let (k, r) ← nodeUnless [.key, .value, .blockEnd] true true fuel r.tail
      let (v, r) ← blockValue fuel r
      let (es, r) ← blockEntries fuel r
      return ((k, v) :: es, r)
    | .blockEnd => .ok ([], r.tail)
    | _ => .error .invalid

/-- Reads the value of an entry of a flow collection, if there is one; `close` ends the
collection. -/
def flowValue (close : Token) : Nat → Reading → Except Fault (Node × Reading)
  | 0, _ => .error .invalid
  | fuel + 1, r =>
    match r.peek with
    | .value => nodeUnless [.comma, close] false false fuel r.tail
    | _ => .ok (.empty, r)

/-- Reads the items of a flow sequence, to its end.  An item that is marked as a key is a mapping
with one entry. -/
def flowItems (first : Bool) : Nat → Reading → Except Fault (List Node × Reading)
  | 0, _ => .error .invalid
  | fuel + 1, r => do
    if r.peek = .flowSequenceEnd then return ([], r.tail)
    if !first ∧ r.peek ≠ .comma then throw .invalid
    let r := if first then r else r.tail
    match r.peek with
    | .key =>
      let (k, r) ← nodeUnless [.value, .comma, .flowSequenceEnd] false false fuel r.tail
      let (v, r) ← flowValue .flowSequenceEnd fuel r
      let (ns, r) ← flowItems false fuel r
      return (.mapping .mapping [(k, v)] :: ns, r)
    | .flowSequenceEnd => return ([], r.tail)
    | _ =>
      let (n, r) ← node false false fuel r
      let (ns, r) ← flowItems false fuel r
      return (n :: ns, r)

/-- Reads the entries of a flow mapping, to its end.  A node that is not marked as a key is a key
without a value. -/
def flowEntries (first : Bool) : Nat → Reading → Except Fault (List (Node × Node) × Reading)
  | 0, _ => .error .invalid
  | fuel + 1, r => do
    if r.peek = .flowMappingEnd then return ([], r.tail)
    if !first ∧ r.peek ≠ .comma then throw .invalid
    let r := if first then r else r.tail
    match r.peek with
    | .key =>
      let (k, r) ← nodeUnless [.value, .comma, .flowMappingEnd] false false fuel r.tail
      let (v, r) ← flowValue .flowMappingEnd fuel r
      let (es, r) ← flowEntries false fuel r
      return ((k, v) :: es, r)
    | .flowMappingEnd => return ([], r.tail)
    | _ =>
      let (k, r) ← node false false fuel r
      let (es, r) ← flowEntries false fuel r
      return ((k, .empty) :: es, r)

end

/-- Reads the directives before a document.  There may be one version, which must be a version 1,
and one tag directive for each short form. -/
def directives : List Token → Bool → List (String × String) →
    Except Fault (List (String × String) × List Token)
  | .version major :: rest, seen, handles =>
    if seen || major ≠ 1 then .error .invalid else directives rest true handles
  | .tagDirective handle space :: rest, seen, handles =>
    if (handles.lookup handle).isSome then .error .invalid
    else directives rest seen ((handle, space) :: handles)
  | .directive :: rest, seen, handles => directives rest seen handles
  | rest, _, handles => .ok (handles ++ basicHandles, rest)

/-- Whether a token stands between documents. -/
def isBoundary : Token → Bool
  | .version _ | .tagDirective .. | .directive | .documentStart | .documentEnd | .streamEnd => true
  | _ => false

/-- Whether only ends of documents are left. -/
def isOver (tokens : List Token) : Bool := tokens.dropWhile (· = .documentEnd) = [.streamEnd]

/-- The single document of a list of tokens, or nothing if there is none. -/
def document (tokens : List Token) : Except Fault (Option Node) := do
  let fuel := 4 * tokens.length + 8
  let top := tokens.headD .streamEnd
  if top = .streamEnd then return none
  let (n, r) ←
    if isBoundary top && top ≠ .documentEnd then do
      let (handles, rest) ← directives tokens false []
      if rest.head? ≠ some .documentStart then throw .invalid
      let r : Reading := ⟨rest.tail, handles, []⟩
      if isBoundary r.peek then pure (Node.empty, r) else node true false fuel r
    else node true false fuel ⟨tokens, basicHandles, []⟩
  if isOver r.tokens then return some n else throw .invalid

end Reading

/-- The tree of a text, or nothing if the text holds no document. -/
def Node.ofText (text : List Char) : Except Fault (Option Node) := do
  Reading.document (← Token.scan text)

end CrateAtlas.Yaml
