import CrateAtlas.Number.Binary64
import CrateAtlas.Number.Digits
import CrateAtlas.Text.Quoted

/-!
# Values of configuration data

What a settings file or a manifest may hold: the scalars, dates and times, lists and mappings.  The
keys of a mapping are values themselves and stand in the order in which they were written.

* `Value.sameKey` says when two keys name the same entry: numbers and truth values are compared as
  numbers.
* `Value.quoted` shows a value inside a message, `Value.bare` shows it as plain text.  Neither is of
  any use for a whole number that is too long to be written: `Value.isLong` says which ones are, and
  `Value.hasLong` says which values hold one.
-/

set_option autoImplicit false

namespace CrateAtlas

/-- A day of the calendar. -/
structure Date where
  year : Nat
  month : Nat
  day : Nat
deriving DecidableEq, Repr, Inhabited

/-- A time of the day, to the microsecond. -/
structure Clock where
  hour : Nat
  minute : Nat
  second : Nat
  micros : Nat
deriving DecidableEq, Repr, Inhabited

/-- A value of configuration data. -/
inductive Value where
  | null
  | bool (value : Bool)
  | int (value : Int)
  | float (value : Binary64)
  | text (value : String)
  | octets (value : List Nat)
  | date (value : Date)
  | clock (value : Clock)
  /-- A day and a time, with the offset from universal time in seconds where it is known. -/
  | moment (date : Date) (clock : Clock) (offset : Option Int)
  | list (items : List Value)
  | set (items : List Value)
  | map (entries : List (Value × Value))

namespace Value

instance : Inhabited Value := ⟨.null⟩

/-- The name of the type of a value. -/
def typeName : Value → String
  | .null => "NoneType"
  | .bool _ => "bool"
  | .int _ => "int"
  | .float _ => "float"
  | .text _ => "str"
  | .octets _ => "bytes"
  | .date _ => "datetime.date"
  | .clock _ => "datetime.time"
  | .moment .. => "datetime.datetime"
  | .list _ => "list"
  | .set _ => "set"
  | .map _ => "dict"

/-! ## Keys -/

/-- The number that a truth value, an integer or a whole floating-point number stands for. -/
def asInt? : Value → Option Int
  | .bool b => some (if b then 1 else 0)
  | .int n => some n
  | .float x => x.toInt?
  | _ => none

/-- Whether two keys name the same entry of a mapping. -/
def sameKey (a b : Value) : Bool :=
  match a.asInt?, b.asInt? with
  | some m, some n => m = n
  | none, none =>
    match a, b with
    | .null, .null => true
    | .float .nan, _ => false
    | .float x, .float y => x = y
    | .text s, .text t => s = t
    | .octets s, .octets t => s = t
    | .date d, .date e => d = e
    | .clock c, .clock d => c = d
    | .moment d c o, .moment d' c' o' => d = d' && c = c' && o = o'
    | _, _ => false
  | _, _ => false

/-- Whether a value can be the key of an entry: lists, sets and mappings cannot. -/
def isKey : Value → Bool
  | .list _ | .set _ | .map _ => false
  | _ => true

/-- Puts an entry into a mapping.  An entry with the same key keeps its place and its key and gets
the new value. -/
def putEntry (key value : Value) : List (Value × Value) → List (Value × Value)
  | [] => [(key, value)]
  | (k, v) :: rest =>
    if k.sameKey key then (k, value) :: rest else (k, v) :: putEntry key value rest

/-- The value of the entry with the given text as key. -/
def lookup? (entries : List (Value × Value)) (key : String) : Option Value :=
  match entries with
  | [] => none
  | (k, v) :: rest => if k.sameKey (.text key) then some v else lookup? rest key

/-- The member of a mapping with the given name; a value that is no mapping has none. -/
def member? (v : Value) (name : String) : Option Value :=
  match v with
  | .map entries => lookup? entries name
  | _ => none

/-- The text of a text value. -/
def text? : Value → Option String
  | .text s => some s
  | _ => none

theorem text?_eq_some_iff {v : Value} {s : String} : v.text? = some s ↔ v = .text s := by
  cases v <;> simp [text?]

/-- Whether a value counts as absent: null, false, zero, and every empty text or collection. -/
def isVoid : Value → Bool
  | .null => true
  | .bool b => !b
  | .int n => n = 0
  | .float x => x.isZero
  | .text s => s.isEmpty
  | .octets s => s.isEmpty
  | .list items => items.isEmpty
  | .set items => items.isEmpty
  | .map entries => entries.isEmpty
  | _ => false

/-! ## Showing values -/

/-- A number with leading zeros. -/
def padded (width n : Nat) : String :=
  let digits := toString n
  String.ofList (List.replicate (width - digits.length) '0') ++ digits

/-- A day, as year, month and day. -/
def dateText (d : Date) : String :=
  padded 4 d.year ++ "-" ++ padded 2 d.month ++ "-" ++ padded 2 d.day

/-- A time of the day; the microseconds are left out if there are none. -/
def clockText (c : Clock) : String :=
  padded 2 c.hour ++ ":" ++ padded 2 c.minute ++ ":" ++ padded 2 c.second ++
    (if c.micros = 0 then "" else "." ++ padded 6 c.micros)

/-- An offset from universal time. -/
def offsetText (seconds : Int) : String :=
  let n := seconds.natAbs
  (if seconds < 0 then "-" else "+") ++ padded 2 (n / 3600) ++ ":" ++ padded 2 (n / 60 % 60) ++
    (if n % 60 = 0 then "" else ":" ++ padded 2 (n % 60))

/-- How an octet is shown between quotes of the given kind. -/
def showOctet (quote : Char) (n : Nat) : List Char :=
  let c := Char.ofNat n
  if c = quote ∨ c = '\\' then ['\\', c]
  else if c = '\t' then ['\\', 't']
  else if c = '\n' then ['\\', 'n']
  else if c = '\r' then ['\\', 'r']
  else if 32 ≤ n ∧ n < 127 then [c]
  else '\\' :: 'x' :: Text.hexDigits 2 n

/-- A sequence of octets between quotes. -/
def octetsText (octets : List Nat) : String :=
  let q := Text.quoteFor (octets.map Char.ofNat)
  String.ofList ('b' :: q :: (octets.flatMap (showOctet q) ++ [q]))

mutual

/-- A value as it is shown inside a message. -/
def quoted : Value → String
  | .null => "None"
  | .bool b => if b then "True" else "False"
  | .int n => toString n
  | .float x => x.text
  | .text s => Text.quoted s
  | .octets s => octetsText s
  | .date d => dateText d
  | .clock c => clockText c
  | .moment d c offset =>
    dateText d ++ " " ++ clockText c ++ (offset.map offsetText).getD ""
  | .list items => "[" ++ quotedItems items ++ "]"
  | .set items => "\x7b" ++ quotedItems items ++ "\x7d"
  | .map entries => "\x7b" ++ quotedEntries entries ++ "\x7d"

/-- The items of a list, separated by commas. -/
def quotedItems : List Value → String
  | [] => ""
  | [v] => quoted v
  | v :: vs => quoted v ++ ", " ++ quotedItems vs

/-- The entries of a mapping, separated by commas. -/
def quotedEntries : List (Value × Value) → String
  | [] => ""
  | [(k, v)] => quoted k ++ ": " ++ quoted v
  | (k, v) :: rest => quoted k ++ ": " ++ quoted v ++ ", " ++ quotedEntries rest

end

/-- A value as bare text: a text stands for itself, and everything else is shown as in a
message. -/
def bare : Value → String
  | .text s => s
  | v => v.quoted

/-- Whether a value is a whole number with more digits than are written. -/
def isLong : Value → Bool
  | .int n => Nat.pow 10 Digits.limit ≤ n.natAbs
  | _ => false

mutual

/-- Whether a value holds a whole number with more digits than are written. -/
def hasLong : Value → Bool
  | .list items => hasLongItem items
  | .set items => hasLongItem items
  | .map entries => hasLongEntry entries
  | v => v.isLong

/-- Whether a list of values holds such a number. -/
def hasLongItem : List Value → Bool
  | [] => false
  | v :: vs => hasLong v || hasLongItem vs

/-- Whether a mapping holds such a number. -/
def hasLongEntry : List (Value × Value) → Bool
  | [] => false
  | (k, v) :: rest => hasLong k || hasLong v || hasLongEntry rest

end

end Value

end CrateAtlas
