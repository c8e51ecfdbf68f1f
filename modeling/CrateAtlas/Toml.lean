import CrateAtlas.Toml.Scalar

/-!
# TOML documents

`Toml.parse` reads a TOML document as a mapping, or says why the text is not read.  Of several
faults the first one counts.

A document is a sequence of entries and headers.  A header opens a table or appends one to an array
of tables, and the entries after it belong to that table.  What may still be added where is kept
beside the data:

* *closed* tables were opened by a header, or made by dotted keys under an earlier header, and
  cannot be opened again;
* *sealed* keys hold an inline table or an array; nothing may be added at or below them.
-/

set_option autoImplicit false

namespace CrateAtlas.Toml

/-- The names that lead from the root of a document to a table or value. -/
abbrev Key := List String

/-- The entries of a table, in the order in which they were made. -/
abbrev Entries := List (Value × Value)

/-! ## Tables -/

/-- Puts a value in the place of the one with the given name. -/
def replaceEntry (name : String) (value : Value) : Entries → Entries
  | [] => []
  | (k, v) :: rest =>
    if k.sameKey (.text name) then (k, value) :: rest else (k, v) :: replaceEntry name value rest

/-- Changes the table at a key.  Tables are made on the way, and an array of tables stands for its
last one if `throughArrays` is set. -/
def changeAt (throughArrays : Bool) (change : Entries → Option Entries) :
    Key → Entries → Option Entries
  | [], entries => change entries
  | name :: key, entries =>
    match Value.lookup? entries name with
    | none =>
      (changeAt throughArrays change key []).map fun inner =>
        entries ++ [(.text name, .map inner)]
    | some (.map inner) =>
      (changeAt throughArrays change key inner).map fun inner =>
        replaceEntry name (.map inner) entries
    | some (.list items) =>
      match throughArrays, items.getLast? with
      | true, some (.map inner) =>
        (changeAt throughArrays change key inner).map fun inner =>
          replaceEntry name (.list (items.dropLast ++ [.map inner])) entries
      | _, _ => none
    | some _ => none

/-- Adds an entry to a table that has none with its name. -/
def addEntry (name : String) (value : Value) (entries : Entries) : Option Entries :=
  match Value.lookup? entries name with
  | some _ => none
  | none => some (entries ++ [(.text name, value)])

/-- Appends an empty table to the array of tables with the given name. -/
def appendTable (name : String) (entries : Entries) : Option Entries :=
  match Value.lookup? entries name with
  | none => some (entries ++ [(.text name, .list [.map []])])
  | some (.list items) => some (replaceEntry name (.list (items ++ [.map []])) entries)
  | some _ => none

/-- Whether a value is an inline table or an array. -/
def isInline : Value → Bool
  | .map _ | .list _ => true
  | _ => false

/-! ## Keys and values -/

/-- Whether a character may stand in a bare key. -/
def isBare (c : Char) : Bool :=
  ('a' ≤ c && c ≤ 'z') || ('A' ≤ c && c ≤ 'Z') || ('0' ≤ c && c ≤ '9') || c = '-' || c = '_'

/-- Reads one part of a key. -/
def keyPart : Reader String := fun cs =>
  match cs with
  | [] => none
  | c :: rest =>
    if isBare c then
      some (String.ofList (cs.takeWhile isBare), cs.dropWhile isBare)
    else if c = '"' then (basic false .plain [] rest).map fun (s, rest) => (String.ofList s, rest)
    else if c = quote then (literal rest).map fun (s, rest) => (String.ofList s, rest)
    else none

/-- Reads a key: parts with dots between them.  Blanks may stand around the dots. -/
def key : Nat → Reader Key
  | 0, _ => none
  | fuel + 1, cs =>
    match keyPart cs with
    | none => none
    | some (part, rest) =>
      match skipGaps rest with
      | '.' :: rest => (key fuel (skipGaps rest)).map fun (parts, rest) => (part :: parts, rest)
      | rest => some ([part], rest)

/-- Drops blank space, line ends and comments between the items of an array. -/
def skipLines : Nat → List Char → Option (List Char)
  | 0, cs => some cs
  | fuel + 1, cs =>
    match cs.dropWhile isGapOrBreak with
    | '#' :: rest =>
      match skipComment ('#' :: rest) with
      | none => none
      | some rest => skipLines fuel rest
    | rest => some rest

/-- An inline table while it is read: its entries, and the keys that are sealed. -/
structure Inline where
  entries : Entries
  sealed : List Key

/-- Adds an entry to an inline table. -/
def Inline.add (t : Inline) (k : Key) (value : Value) : Option Inline :=
  match k.getLast? with
  | none => none
  | some name =>
    if t.sealed.any fun s => s.isPrefixOf k then none
    else
      (changeAt false (addEntry name value) k.dropLast t.entries).map fun entries =>
        ⟨entries, if isInline value then k :: t.sealed else t.sealed⟩

/-- What was read, if anything was. -/
def known {α : Type} : Option α → Except Fault α
  | some a => .ok a
  | none => .error .invalid

mutual

/-- Reads a value. -/
def value : Nat → List Char → Except Fault (Value × List Char)
  | 0, _ => .error .invalid
  | fuel + 1, cs =>
    match cs with
    | [] => .error .invalid
    | '[' :: rest => do
      let rest ← known (skipLines fuel rest)
      match rest with
      | ']' :: after => return (.list [], after)
      | _ => items fuel [] rest
    | '{' :: rest =>
      match skipGaps rest with
      | '}' :: after => .ok (.map [], after)
      | rest => inlineTable fuel ⟨[], []⟩ rest
    | 't' :: 'r' :: 'u' :: 'e' :: rest => .ok (.bool true, rest)
    | 'f' :: 'a' :: 'l' :: 's' :: 'e' :: rest => .ok (.bool false, rest)
    | c :: _ =>
      if c = '"' || c = quote then
        (known (string cs)).map fun (s, rest) => (.text (String.ofList s), rest)
      else plain cs

/-- Reads the items of an array; `acc` holds those so far, backwards. -/
def items : Nat → List Value → List Char → Except Fault (Value × List Char)
  | 0, _, _ => .error .invalid
  | fuel + 1, acc, cs => do
    let (v, rest) ← value fuel cs
    match ← known (skipLines fuel rest) with
    | ']' :: after => return (.list (v :: acc).reverse, after)
    | ',' :: rest =>
      match ← known (skipLines fuel rest) with
      | ']' :: after => return (.list (v :: acc).reverse, after)
      | rest => items fuel (v :: acc) rest
    | _ => throw .invalid

/-- Reads the entries of an inline table. -/
def inlineTable : Nat → Inline → List Char → Except Fault (Value × List Char)
  | 0, _, _ => .error .invalid
  | fuel + 1, t, cs => do
    let (k, v, rest) ← entry fuel cs
    let t ← known (t.add k v)
    match skipGaps rest with
    | '}' :: after => return (.map t.entries, after)
    | ',' :: rest => inlineTable fuel t (skipGaps rest)
    | _ => throw .invalid

/-- Reads a key, an equals sign and a value. -/
def entry : Nat → List Char → Except Fault (Key × Value × List Char)
  | 0, _ => .error .invalid
  | fuel + 1, cs => do
    let (k, rest) ← known (key fuel cs)
    match rest with
    | '=' :: rest =>
      let (v, rest) ← value fuel (skipGaps rest)
      return (k, v, rest)
    | _ => throw .invalid

end

/-! ## Documents -/

/-- A document while it is read. -/
structure Document where
  entries : Entries
  /-- The table that entries belong to. -/
  header : Key
  closed : List Key
  sealed : List Key
  /-- Tables made by dotted keys under the current header, which are closed with the next one. -/
  pending : List Key

/-- The document in which nothing is written yet. -/
def Document.empty : Document := ⟨[], [], [], [], []⟩

/-- Whether nothing may be added at a key. -/
def Document.isSealed (d : Document) (k : Key) : Bool := d.sealed.any fun s => s.isPrefixOf k

/-- Ends the entries of a header. -/
def Document.endHeader (d : Document) : Document :=
  { d with closed := d.pending ++ d.closed, pending := [] }

/-- Opens a table. -/
def Document.openTable (d : Document) (k : Key) : Option Document :=
  if d.closed.contains k || d.isSealed k then none
  else
    (changeAt true some k d.entries).map fun entries =>
      { d with entries, header := k, closed := k :: d.closed }

/-- Opens a new table in an array of tables. -/
def Document.openItem (d : Document) (k : Key) : Option Document :=
  match k.getLast? with
  | none => none
  | some name =>
    if d.isSealed k then none
    else
      (changeAt true (appendTable name) k.dropLast d.entries).map fun entries =>
        { d with
          entries
          header := k
          closed := k :: d.closed.filter fun c => !k.isPrefixOf c
          sealed := d.sealed.filter fun s => !k.isPrefixOf s }

/-- The tables that a dotted key leads through. -/
def between (header k : Key) : List Key :=
  (List.range (k.length - 1)).map fun n => header ++ k.take (n + 1)

/-- Adds an entry to the table of the current header. -/
def Document.add (d : Document) (k : Key) (v : Value) : Option Document :=
  match k.getLast? with
  | none => none
  | some name =>
    let tables := between d.header k
    if tables.any d.closed.contains || d.isSealed (d.header ++ k.dropLast) then none
    else
      (changeAt true (addEntry name v) (d.header ++ k.dropLast) d.entries).map fun entries =>
        { d with
          entries
          sealed := if isInline v then (d.header ++ k) :: d.sealed else d.sealed
          pending := tables ++ d.pending }

/-- Reads one header or entry. -/
def Document.statement (d : Document) (fuel : Nat) (cs : List Char) :
    Except Fault (Document × List Char) := do
  match cs with
  | '[' :: '[' :: rest =>
    let (k, rest) ← known (key fuel (skipGaps rest))
    let d ← known (d.endHeader.openItem k)
    match rest with
    | ']' :: ']' :: rest => return (d, skipGaps rest)
    | _ => throw .invalid
  | '[' :: rest =>
    let (k, rest) ← known (key fuel (skipGaps rest))
    let d ← known (d.endHeader.openTable k)
    match rest with
    | ']' :: rest => return (d, skipGaps rest)
    | _ => throw .invalid
  | '#' :: _ => return (d, cs)
  | _ =>
    let (k, v, rest) ← entry fuel cs
    let d ← known (d.add k v)
    return (d, skipGaps rest)

/-- Reads a document line by line. -/
def Document.read (d : Document) : Nat → List Char → Except Fault Document
  | 0, _ => .error .invalid
  | fuel + 1, cs =>
    match skipGaps cs with
    | [] => .ok d
    | '\n' :: rest => d.read fuel rest
    | cs => do
      let (d, rest) ← d.statement fuel cs
      match ← known (skipComment rest) with
      | [] => return d
      | '\n' :: rest => d.read fuel rest
      | _ => throw .invalid

/-- Turns the pairs of carriage return and line feed into line feeds. -/
def joinBreaks : List Char → List Char
  | [] => []
  | '\r' :: '\n' :: cs => '\n' :: joinBreaks cs
  | c :: cs => c :: joinBreaks cs

/-- The entries of a TOML document. -/
def parse (text : String) : Except Fault Entries :=
  let cs := joinBreaks text.toList
  (Document.empty.read (2 * cs.length + 8) cs).map Document.entries

end CrateAtlas.Toml
