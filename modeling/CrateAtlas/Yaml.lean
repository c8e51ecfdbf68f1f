import CrateAtlas.Text.Blank
import CrateAtlas.Text.LowerCase
import CrateAtlas.Yaml.Node

/-!
# Values of YAML texts

`Yaml.parse` gives the value of a YAML text, with the tags that every reader knows.

* A **merge key** adds the entries of other mappings in front of a mapping's own.  Where a key comes
  twice, the later entry gives the value and the earlier one the position; so a mapping's own
  entries win.
* Only scalars may be keys.
* A scalar whose text does not have the form that its tag asks for is a fault of its own kind.
* Of several faults, that which lies least deep counts (`Node.result`).
-/

set_option autoImplicit false

namespace CrateAtlas.Yaml

/-! ## Scalars -/

/-- A whole number in a base, with or without a sign. -/
def numeral (base : Nat) (cs : List Char) : Except Fault Int :=
  let (negative, ds) := match Text.trim cs with
    | '-' :: ds => (true, ds)
    | '+' :: ds => (false, ds)
    | ds => (false, ds)
  if ds.isEmpty || !ds.all (Digits.isDigit base) then
    .error (.scalar (.notInteger base (String.ofList cs)))
  else
    let n : Int := Digits.toNat base ds
    .ok (if negative then -n else n)

/-- A whole number in decimal notation.  Too many digits are a fault, whatever follows them. -/
def wholeNumber (cs : List Char) : Except Fault Int :=
  let ds := match Text.trim cs with
    | '-' :: ds => ds
    | '+' :: ds => ds
    | ds => ds
  let count := (ds.takeWhile (Digits.isDigit 10)).length
  if Digits.limit < count then .error (.scalar (.tooManyDigits count)) else numeral 10 cs

/-- A number with or without a point and an exponent. -/
def decimal (cs : List Char) : Except Fault Binary64 :=
  let fault := Fault.scalar (.notFloat (String.ofList cs))
  let (negative, ds) := match Text.trim cs with
    | '-' :: ds => (true, ds)
    | '+' :: ds => (false, ds)
    | ds => (false, ds)
  let whole := ds.takeWhile (Digits.isDigit 10)
  let rest := ds.dropWhile (Digits.isDigit 10)
  let (fraction, rest) := match rest with
    | '.' :: rest => (rest.takeWhile (Digits.isDigit 10), rest.dropWhile (Digits.isDigit 10))
    | _ => ([], rest)
  let word := String.ofList ds
  if word = "inf" || word = "infinity" then .ok (.infinite negative)
  else if word = "nan" then .ok .nan
  else if whole.isEmpty && fraction.isEmpty then .error fault
  else
    let number (exponent : Int) :=
      Binary64.ofDecimal negative (Digits.toNat 10 (whole ++ fraction))
        (exponent - fraction.length)
    match rest with
    | [] => .ok (number 0)
    | 'e' :: exponent =>
      match numeral 10 exponent with
      | .ok n => if exponent.any Text.isBlank then .error fault else .ok (number n)
      | .error _ => .error fault
    | _ => .error fault

/-- A text without underscores and without its sign, and whether the sign was a minus. -/
def withoutSign (cs : List Char) : Except Fault (Bool × List Char) :=
  match cs.filter (· ≠ '_') with
  | [] => .error (.scalar .nothing)
  | '-' :: ds => .ok (true, ds)
  | '+' :: ds => .ok (false, ds)
  | ds => .ok (false, ds)

/-- A whole number in one of its written forms. -/
def intOf (text : String) : Except Fault Int := do
  let (negative, ds) ← withoutSign text.toList
  let n ← match ds with
    | [] => throw (.scalar .nothing)
    | ['0'] => pure 0
    | '0' :: 'b' :: ds => numeral 2 ds
    | '0' :: 'x' :: ds => numeral 16 ds
    | '0' :: ds => numeral 8 ('0' :: ds)
    | ds =>
      (Tag.colonParts ds).foldlM (fun n part => do return n * 60 + (← wholeNumber part)) (0 : Int)
  return if negative then -n else n

/-- A number in one of its written forms; in base sixty the last part counts first. -/
def floatOf (text : String) : Except Fault Binary64 := do
  let (negative, ds) ← withoutSign (Text.lower text.toList)
  let x ←
    if ds = ".inf".toList then pure (.infinite false)
    else if ds = ".nan".toList then pure .nan
    else if ds.contains ':' then do
      let parts ← (Tag.colonParts ds).mapM decimal
      let (total, _) := parts.reverse.foldl
        (fun (total, unit) part => (Binary64.add total (part.scaleBy unit), unit * 60))
        (Binary64.zero false, 1)
      pure total
    else decimal ds
  return if negative then x.neg else x

/-- True or false. -/
def boolOf (text : String) : Except Fault Bool :=
  let word := String.ofList (Text.lower text.toList)
  if ["yes", "true", "on"].contains word then .ok true
  else if ["no", "false", "off"].contains word then .ok false
  else .error (.scalar (.notFlag word))

/-- A day, or a day with a time. -/
def momentOf (text : String) : Except Fault Value := do
  let lift {α : Type} : Except CalendarFault α → Except Fault α :=
    Except.mapError fun fault => .scalar (.noSuchTime fault)
  let some stamp := Tag.stamp? text.toList | throw (.scalar .notTimestamp)
  let date : Date := ⟨stamp.year, stamp.month, stamp.day⟩
  match stamp.time with
  | none => return .date (← lift date.check)
  | some (hour, minute, second, fraction) =>
    if let some minutes := stamp.offset then
      if 1440 ≤ minutes.natAbs then throw (.scalar (.wideOffset minutes))
    let micros := Digits.toNat 10 ((fraction ++ List.replicate 6 '0').take 6)
    let date ← lift date.check
    let clock ← lift (Clock.check ⟨hour, minute, second, micros⟩)
    return .moment date clock (stamp.offset.map (· * 60))

/-- The number that a character stands for in base 64. -/
def sextet? (c : Char) : Option Nat :=
  if 'A' ≤ c ∧ c ≤ 'Z' then some (c.toNat - 65)
  else if 'a' ≤ c ∧ c ≤ 'z' then some (c.toNat - 71)
  else if '0' ≤ c ∧ c ≤ '9' then some (c.toNat + 4)
  else if c = '+' then some 62
  else if c = '/' then some 63
  else none

/-- The octets that a text in base 64 stands for.  Characters outside the alphabet are skipped.  The
state is the number of sextets and of equals signs since the last group of four, and the bits that
are left over. -/
def octets : List Char → Nat → Nat → Nat → Option (List Nat)
  | [], held, _, _ => if held = 0 then some [] else none
  | c :: cs, held, pads, bits =>
    if c = '=' then
      if 2 ≤ held ∧ 4 ≤ held + pads + 1 then some []
      else octets cs held (if 2 ≤ held then pads + 1 else pads) bits
    else
      match sextet? c with
      | none => octets cs held pads bits
      | some n =>
        match held with
        | 0 => octets cs 1 0 n
        | 1 => (octets cs 2 0 (n % 16)).map ((bits * 4 + n / 16) :: ·)
        | 2 => (octets cs 3 0 (n % 4)).map ((bits * 16 + n / 4) :: ·)
        | _ => (octets cs 0 0 0).map ((bits * 64 + n) :: ·)

/-- The value of a scalar. -/
def scalarValue (tag : Tag) (text : String) : Except Fault Value :=
  match tag with
  | .null => .ok .null
  | .bool => (boolOf text).map .bool
  | .int => (intOf text).map .int
  | .float => (floatOf text).map .float
  | .timestamp => momentOf text
  | .text => .ok (.text text)
  | .binary =>
    if text.toList.all (·.toNat < 128) then
      match octets text.toList 0 0 0 with
      | some bytes => .ok (.octets bytes)
      | none => .error .invalid
    else .error .invalid
  | _ => .error .invalid

/-! ## Collections -/

mutual

/-- The text of a scalar, or of the default value of a mapping. -/
def Node.text? : Node → Option String
  | .scalar _ text => some text
  | .sequence .. => none
  | .mapping _ entries => defaultText? entries

/-- The text of the default value among the entries of a mapping. -/
def defaultText? : List (Node × Node) → Option String
  | [] => none
  | (k, v) :: rest => if k.tag = .default then v.text? else defaultText? rest

end

/-- The value of a node that is a key: the key of a default value stands for its text. -/
def keyOf (k : Node) (value : Except Fault Value) : Except Fault Value :=
  match k with
  | .scalar .default text => .ok (.text text)
  | _ => do
    let key ← value
    if key.isKey then return key else throw .invalid

mutual

/-- The value of a node. -/
def Node.value : Node → Except Fault Value
  | .scalar tag text => scalarValue tag text
  | .sequence tag items =>
    match tag with
    | .sequence => do return .list (← itemValues items)
    | .orderedMapping => do return .list (← pairValues items)
    | .pairs => do return .list (← pairValues items)
    | _ => .error .invalid
  | .mapping tag entries =>
    match tag with
    | .mapping => do
      let (merged, own) ← entryValues entries
      return .map ((merged ++ own).foldl (fun es e => Value.putEntry e.1 e.2 es) [])
    | .set => do
      let (merged, own) ← entryValues entries
      return .set (((merged ++ own).foldl (fun es e => Value.putEntry e.1 e.2 es) []).map (·.1))
    | tag =>
      match defaultText? entries with
      | some text => scalarValue tag text
      | none => .error .invalid

/-- The values of the items of a sequence. -/
def itemValues : List Node → Except Fault (List Value)
  | [] => .ok []
  | n :: ns => do
    let v ← n.value
    return v :: (← itemValues ns)

/-- The pairs of a sequence of mappings with one entry each. -/
def pairValues : List Node → Except Fault (List Value)
  | [] => .ok []
  | .mapping _ [(k, v)] :: ns => do
    let key ← k.value
    let value ← v.value
    return .list [key, value] :: (← pairValues ns)
  | _ :: _ => .error .invalid

/-- The entries of a mapping: those merged into it, and its own. -/
def entryValues : List (Node × Node) →
    Except Fault (List (Value × Value) × List (Value × Value))
  | [] => .ok ([], [])
  | (k, v) :: rest =>
    if k.tag = .merge then do
      let more ← mergedEntries v
      let (merged, own) ← entryValues rest
      return (more ++ merged, own)
    else do
      let key ← keyOf k k.value
      let value ← v.value
      let (merged, own) ← entryValues rest
      return (merged, (key, value) :: own)

/-- The entries that a mapping, or each mapping of a sequence, adds to another.  Of a sequence the
last mapping comes first. -/
def mergedEntries : Node → Except Fault (List (Value × Value))
  | .mapping _ entries => do
    let (merged, own) ← entryValues entries
    return merged ++ own
  | .sequence _ items => mergedItems items
  | .scalar .. => .error .invalid

/-- The entries that the mappings of a sequence add to another mapping. -/
def mergedItems : List Node → Except Fault (List (Value × Value))
  | [] => .ok []
  | .mapping _ entries :: ns => do
    let (merged, own) ← entryValues entries
    return (← mergedItems ns) ++ merged ++ own
  | _ :: _ => .error .invalid

end

/-! ## The order of faults

The items of a collection are looked at only when everything is done that lies less deep.  So the
fault that counts is one of those that lie least deep, and among them the first. -/

/-- Whether the values with a tag have others in them. -/
def Tag.isCollection : Tag → Bool
  | .sequence | .orderedMapping | .pairs | .mapping | .set => true
  | _ => false

/-- The fault of a computation, if it has one. -/
def faultOf {α : Type} : Except Fault α → List Fault
  | .ok _ => []
  | .error f => [f]

/-- Faults by their depth, put together with others that come later. -/
def beside : List (List Fault) → List (List Fault) → List (List Fault)
  | [], gs => gs
  | fs, [] => fs
  | f :: fs, g :: gs => (f ++ g) :: beside fs gs

/-- The faults of a node that is a key.  What is in a collection does not count, since it can be no
key. -/
def keyFaults (k : Node) (faults : List (List Fault)) : List (List Fault) :=
  match k with
  | .scalar .default _ => []
  | k => if k.tag.isCollection then [[.invalid]] else faults

/-- The faults of the entries of a mapping. -/
structure EntryFaults where
  /-- Of putting the entries together. -/
  joining : List Fault
  /-- Of the entries merged into the mapping, by their depth. -/
  merged : List (List Fault)
  /-- Of its own entries, by their depth. -/
  own : List (List Fault)

/-- All faults of the entries of a mapping, by their depth. -/
def EntryFaults.all (x : EntryFaults) : List (List Fault) :=
  beside [x.joining] (beside x.merged x.own)

mutual

/-- The faults of a node and of what is in it, by their depth. -/
def Node.faults : Node → List (List Fault)
  | .scalar tag text =>
    if tag.isCollection then [[], [.invalid]] else [faultOf (scalarValue tag text)]
  | .sequence tag items =>
    match tag with
    | .sequence => [] :: itemFaults items
    | .orderedMapping => [] :: pairFaults items
    | .pairs => [] :: pairFaults items
    | tag => if tag.isCollection then [[], [.invalid]] else [[.invalid]]
  | .mapping tag entries =>
    match tag with
    | .mapping => [] :: (entryFaults entries).all
    | .set => [] :: (entryFaults entries).all
    | tag =>
      if tag.isCollection then [[], [.invalid]]
      else
        match defaultText? entries with
        | some text => [faultOf (scalarValue tag text)]
        | none => [[.invalid]]

/-- The faults of the items of a sequence. -/
def itemFaults : List Node → List (List Fault)
  | [] => []
  | n :: ns => beside n.faults (itemFaults ns)

/-- The faults of a sequence of mappings with one entry each. -/
def pairFaults : List Node → List (List Fault)
  | [] => []
  | .mapping _ [(k, v)] :: ns => beside (beside k.faults v.faults) (pairFaults ns)
  | _ :: _ => [[.invalid]]

/-- The faults of the entries of a mapping. -/
def entryFaults : List (Node × Node) → EntryFaults
  | [] => ⟨[], [], []⟩
  | (k, v) :: rest =>
    let later := entryFaults rest
    if k.tag = .merge then
      let (joining, merged) := mergedFaults v
      ⟨joining ++ later.joining, beside merged later.merged, later.own⟩
    else
      { later with own := beside (beside (keyFaults k k.faults) v.faults) later.own }

/-- The faults of what a node adds to a mapping: of putting it together, and of the entries. -/
def mergedFaults : Node → List Fault × List (List Fault)
  | .mapping _ entries =>
    let x := entryFaults entries
    (x.joining, beside x.merged x.own)
  | .sequence _ items => mergedItemFaults items
  | .scalar .. => ([.invalid], [])

/-- The faults of what the mappings of a sequence add to another mapping. -/
def mergedItemFaults : List Node → List Fault × List (List Fault)
  | [] => ([], [])
  | .mapping _ entries :: ns =>
    let x := entryFaults entries
    let (joining, later) := mergedItemFaults ns
    (x.joining ++ joining, beside later (beside x.merged x.own))
  | _ :: _ => ([.invalid], [])

end

/-- The value of a node, or the fault that counts. -/
def Node.result (n : Node) : Except Fault Value :=
  match n.faults.flatten with
  | fault :: _ => .error fault
  | [] => n.value

/-- The value of a text; a text without a document has the value null. -/
def parse (text : String) : Except Fault Value := do
  match ← Node.ofText text.toList with
  | some n => n.result
  | none => return .null

/-! ## Readers -/

/-- A text as a reader gets it, piece by piece: its characters, and what is wrong with the octets
after them, if anything is. -/
structure Stream where
  chars : List Char
  fault : Option Text.Utf8Fault

/-- Why a reader gives no value. -/
inductive StreamFault where
  /-- The reader has come to octets that are not UTF-8. -/
  | undecodable (fault : Text.Utf8Fault)
  | document (fault : Fault)

/-- A reader of YAML documents. -/
abbrev Reader := Stream → Except StreamFault Value

/-- A character that the end of the text cuts off is found when nothing else is left, so its octets
count from zero. -/
def atEndOfData (fault : Text.Utf8Fault) : Text.Utf8Fault :=
  if fault.problem = .endOfData then { fault with start := 0, stop := fault.stop - fault.start }
  else fault

/-- The reader that does not look at a text before it has all of it. -/
def read : Reader := fun s =>
  match s.fault with
  | some fault => .error (.undecodable (atEndOfData fault))
  | none => (parse (String.ofList s.chars)).mapError .document

end CrateAtlas.Yaml
