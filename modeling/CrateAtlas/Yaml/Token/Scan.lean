import CrateAtlas.Yaml.Scalar

/-!
# Cutting a YAML text into tokens

`Token.scan` cuts a whole text into tokens.

* A key of a mapping need not be marked: it is only known to be a key when the colon after it is
  seen.  So wherever a key might start, the place is kept as a **pending key**, one for each depth
  of flow collections; when the colon comes, the key token is put in front of what was read since.
  A pending key lapses at the end of its line and after 1024 characters.  Where the indentation
  leaves no choice the key is required, and its lapsing is a fault.
* Outside flow collections the **indentation** opens and closes block collections.
-/

set_option autoImplicit false

namespace CrateAtlas.Yaml

/-- A place where the key of a mapping may have started. -/
structure PendingKey where
  /-- The number of tokens before it. -/
  token : Nat
  required : Bool
  index : Nat
  line : Nat
  column : Nat

/-- What has been read of a text. -/
structure Scanner where
  place : Place
  tokens : Array Token
  /-- The number of open flow collections. -/
  flow : Nat
  /-- The column of the innermost block collection, `-1` outside all of them. -/
  indent : Int
  /-- The columns of the block collections around it. -/
  indents : List Int
  /-- Whether a key without a mark may start here. -/
  keyAllowed : Bool
  /-- The pending keys by the depth of flow collections. -/
  pending : List (Nat × PendingKey)

namespace Scanner

/-- The start of a text. -/
def start (text : List Char) : Scanner := ⟨.start text, #[], 0, -1, [], true, []⟩

/-- Adds a token that ends at a place. -/
def emit (s : Scanner) (token : Token) (p : Place) : Scanner :=
  { s with tokens := s.tokens.push token, place := p }

/-- The pending key at the current depth. -/
def pending? (s : Scanner) : Option PendingKey := s.pending.lookup s.flow

/-- Forgets the pending key at the current depth. -/
def forget (s : Scanner) : Scanner :=
  { s with pending := s.pending.filter (·.1 ≠ s.flow) }

/-- Gives up the pending key at the current depth, which must not be required. -/
def dropKey (s : Scanner) : Except Fault Scanner :=
  match s.pending? with
  | some key => if key.required then .error .invalid else .ok s.forget
  | none => .ok s

/-- Keeps the current place as a pending key. -/
def noteKey (s : Scanner) : Except Fault Scanner :=
  if s.keyAllowed then do
    let required := s.flow = 0 ∧ s.indent = s.place.column
    let s ← s.dropKey
    let key : PendingKey :=
      ⟨s.tokens.size, required, s.place.index, s.place.line, s.place.column⟩
    return { s with pending := (s.flow, key) :: s.pending }
  else .ok s

/-- Whether a pending key has lapsed. -/
def hasLapsed (s : Scanner) (key : PendingKey) : Bool :=
  key.line ≠ s.place.line || 1024 < s.place.index - key.index

/-- Gives up the pending keys that have lapsed. -/
def dropLapsed (s : Scanner) : Except Fault Scanner :=
  if s.pending.any fun k => s.hasLapsed k.2 && k.2.required then .error .invalid
  else .ok { s with pending := s.pending.filter fun k => !s.hasLapsed k.2 }

/-- Closes the block collections that are indented more deeply than a column: the tokens that do so,
the column that is left and the columns around it. -/
def closed (column : Int) : List Int → Int → Array Token → Array Token × Int × List Int
  | [], indent, tokens => (tokens, indent, [])
  | outer :: rest, indent, tokens =>
    if column < indent then closed column rest outer (tokens.push .blockEnd)
    else (tokens, indent, outer :: rest)

/-- Closes the block collections that end at a column. -/
def unwind (s : Scanner) (column : Int) : Scanner :=
  if s.flow = 0 then
    let (tokens, indent, indents) := closed column s.indents s.indent s.tokens
    { s with tokens := tokens, indent := indent, indents := indents }
  else s

/-- Opens a block collection at a column if it is indented more deeply than what is around it; its
first token goes to the given place among the tokens. -/
def openBlock (s : Scanner) (column token : Nat) (opening : Token) : Scanner :=
  if s.indent < column then
    { s with
      indents := s.indent :: s.indents
      indent := column
      tokens := s.tokens.insertIdxIfInBounds token opening }
  else s

/-- Skips blanks, comments and line breaks.  Outside flow collections a key may start on a new
line. -/
def skipBlanks : Nat → Scanner → Scanner
  | 0, s => s
  | fuel + 1, s =>
    let p := s.place.skipSpaces
    let p := if p.peek = '#' then p.skipLine else p
    if isBreak p.peek then
      skipBlanks fuel { s with place := p.lineBreak.2, keyAllowed := s.keyAllowed || s.flow = 0 }
    else { s with place := p }

/-- A marker between documents, or the end of the text: all block collections end. -/
def atMargin (s : Scanner) : Except Fault Scanner := do
  let s ← (s.unwind (-1)).dropKey
  return { s with keyAllowed := false }

/-- A sign that opens a flow collection. -/
def openFlow (s : Scanner) (token : Token) : Except Fault Scanner := do
  let s ← s.noteKey
  return { s with flow := s.flow + 1, keyAllowed := true }.emit token (s.place.skip 1)

/-- A sign that closes a flow collection. -/
def closeFlow (s : Scanner) (token : Token) : Except Fault Scanner := do
  let s ← s.dropKey
  return { s with flow := s.flow - 1, keyAllowed := false }.emit token (s.place.skip 1)

/-- A comma. -/
def comma (s : Scanner) : Except Fault Scanner := do
  let s ← s.dropKey
  return { s with keyAllowed := true }.emit .comma (s.place.skip 1)

/-- A dash before an item. -/
def item (s : Scanner) : Except Fault Scanner := do
  if s.flow = 0 ∧ !s.keyAllowed then throw .invalid
  let s := if s.flow = 0 then s.openBlock s.place.column s.tokens.size .blockSequence else s
  let s ← s.dropKey
  return { s with keyAllowed := true }.emit .item (s.place.skip 1)

/-- A question mark before a key. -/
def key (s : Scanner) : Except Fault Scanner := do
  if s.flow = 0 ∧ !s.keyAllowed then throw .invalid
  let s := if s.flow = 0 then s.openBlock s.place.column s.tokens.size .blockMapping else s
  let s ← s.dropKey
  return { s with keyAllowed := s.flow = 0 }.emit .key (s.place.skip 1)

/-- A colon before a value.  If a key is pending, it is a key indeed. -/
def value (s : Scanner) : Except Fault Scanner := do
  match s.pending? with
  | some pending =>
    let s := s.forget
    let s := { s with tokens := s.tokens.insertIdxIfInBounds pending.token .key }
    let s := if s.flow = 0 then s.openBlock pending.column pending.token .blockMapping else s
    return { s with keyAllowed := false }.emit .value (s.place.skip 1)
  | none =>
    if s.flow = 0 ∧ !s.keyAllowed then throw .invalid
    let s := if s.flow = 0 then s.openBlock s.place.column s.tokens.size .blockMapping else s
    let s ← s.dropKey
    return { s with keyAllowed := s.flow = 0 }.emit .value (s.place.skip 1)

/-- A token that may be a key. -/
def keyLike (s : Scanner) (read : Place → Except Fault (Token × Place)) :
    Except Fault Scanner := do
  let s ← s.noteKey
  let (token, p) ← read s.place
  return { s with keyAllowed := false }.emit token p

/-- A scalar between quotes. -/
def quoted (s : Scanner) (double : Bool) : Except Fault Scanner :=
  s.keyLike fun p => do
    let (cs, p) ← flowScalar double (p.rest.length + 1) (p.skip 1)
    return (.scalar (String.ofList cs) false, p)

/-- A block scalar. -/
def block (s : Scanner) (folded : Bool) : Except Fault Scanner := do
  let s ← s.dropKey
  let least := max (s.indent + 1) 1
  let (cs, p) ← blockScalar folded least.toNat (s.place.rest.length + 1) (s.place.skip 1)
  return { s with keyAllowed := true }.emit (.scalar (String.ofList cs) false) p

/-- A plain scalar. -/
def plain (s : Scanner) : Except Fault Scanner := do
  let s ← s.noteKey
  let (cs, broken, p) :=
    plainScalar (s.flow ≠ 0) (s.indent + 1) (s.place.rest.length + 1) s.place
  return { s with keyAllowed := broken }.emit (.scalar (String.ofList cs) true) p

/-- Whether a plain scalar may start here. -/
def startsPlain (s : Scanner) : Bool :=
  let c := s.place.peek
  let special := endsToken c || "-?:,[]\x7b\x7d#&*!|>\"%@\x60".toList.contains c ||
    c = Text.apostrophe
  !special || (!endsToken (s.place.ahead 1) &&
    (c = '-' || (s.flow = 0 && (c = '?' || c = ':'))))

/-- Reads the next token, at a place where one starts. -/
def next (s : Scanner) : Except Fault Scanner :=
  let p := s.place
  let c := p.peek
  let gap := endsToken (p.ahead 1)
  let atLineStart := p.column = 0
  if c = '%' ∧ atLineStart then do
    let s ← s.atMargin
    let (token, p) ← directive (p.skip 1)
    return s.emit token p
  else if atLineStart ∧ p.isMarker '-' then do
    let s ← s.atMargin
    return s.emit .documentStart (p.skip 3)
  else if atLineStart ∧ p.isMarker '.' then do
    let s ← s.atMargin
    return s.emit .documentEnd (p.skip 3)
  else if c = '[' then s.openFlow .flowSequence
  else if c = '\x7b' then s.openFlow .flowMapping
  else if c = ']' then s.closeFlow .flowSequenceEnd
  else if c = '\x7d' then s.closeFlow .flowMappingEnd
  else if c = ',' then s.comma
  else if c = '-' ∧ gap then s.item
  else if c = '?' ∧ (s.flow ≠ 0 ∨ gap) then s.key
  else if c = ':' ∧ (s.flow ≠ 0 ∨ gap) then s.value
  else if c = '*' then s.keyLike fun p => do
    let (name, p) ← anchorName (p.skip 1)
    return (.reference name, p)
  else if c = '&' then s.keyLike fun p => do
    let (name, p) ← anchorName (p.skip 1)
    return (.anchor name, p)
  else if c = '!' then s.keyLike tagToken
  else if c = '|' ∧ s.flow = 0 then s.block false
  else if c = '>' ∧ s.flow = 0 then s.block true
  else if c = Text.apostrophe then s.quoted false
  else if c = '"' then s.quoted true
  else if s.startsPlain then s.plain
  else .error .invalid

/-- Reads the remaining tokens.  Each one takes at least one character, so the length of the text
bounds their number. -/
def finish : Nat → Scanner → Except Fault (Array Token)
  | 0, _ => .error .invalid
  | fuel + 1, s => do
    let s := s.skipBlanks (s.place.rest.length + 1)
    let s ← s.dropLapsed
    let s := s.unwind s.place.column
    if s.place.rest.isEmpty then
      let s ← s.atMargin
      return s.tokens.push .streamEnd
    else finish fuel (← s.next)

end Scanner

/-- The tokens of a text; a byte order mark at its start is skipped. -/
def Token.scan (text : List Char) : Except Fault (List Token) :=
  if text.all isAllowed then
    let s := Scanner.start text
    let s := if s.place.peek.toNat = 0xFEFF then { s with place := s.place.skip 1 } else s
    (s.finish (text.length + 2)).map Array.toList
  else .error .invalid

end CrateAtlas.Yaml
