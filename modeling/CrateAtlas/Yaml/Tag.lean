import CrateAtlas.Number.Digits

/-!
# Tags of YAML

A tag says what kind of value a node is.  The tag of a scalar that is neither quoted nor tagged
follows from its text: `Tag.ofPlain`.  A whole number may be written in base two, eight, ten or
sixteen, or in base sixty with colons; underscores may stand between digits.
-/

set_option autoImplicit false

namespace CrateAtlas.Yaml

/-- What kind of value a node is. -/
inductive Tag where
  | null
  | bool
  | int
  | float
  | binary
  | timestamp
  | text
  | sequence
  | orderedMapping
  | pairs
  | mapping
  | set
  /-- The key under which other mappings are merged into a mapping. -/
  | merge
  /-- The key of the default value of a mapping. -/
  | default
  | other
deriving DecidableEq, Repr

namespace Tag

/-- What the texts of the basic tags start with. -/
def basicSpace : String := "tag:yaml.org,2002:"

/-- The names of the basic tags. -/
def basicNames : List (String × Tag) :=
  [("null", .null), ("bool", .bool), ("int", .int), ("float", .float), ("binary", .binary),
    ("timestamp", .timestamp), ("str", .text), ("seq", .sequence), ("omap", .orderedMapping),
    ("pairs", .pairs), ("map", .mapping), ("set", .set), ("merge", .merge), ("value", .default)]

/-- The tag with the given text. -/
def ofText (text : String) : Tag :=
  ((basicNames.find? fun n => basicSpace ++ n.1 = text).map (·.2)).getD .other

/-! ## Forms of plain scalars -/

/-- Whether a scalar is empty or a word for nothing. -/
def isNull (s : String) : Bool := ["", "~", "null", "Null", "NULL"].contains s

/-- Whether a scalar is a word for true or false. -/
def isBool (s : String) : Bool :=
  ["yes", "Yes", "YES", "no", "No", "NO", "true", "True", "TRUE", "false", "False", "FALSE",
    "on", "On", "ON", "off", "Off", "OFF"].contains s

/-- A text without its sign. -/
def unsigned : List Char → List Char
  | '+' :: cs => cs
  | '-' :: cs => cs
  | cs => cs

/-- Whether a text is made of digits of a base and underscores. -/
def isGrouped (base : Nat) (cs : List Char) : Bool :=
  cs.all fun c => Digits.isDigit base c || c = '_'

/-- Whether a text is made of digits and underscores and starts with a digit. -/
def isNumeral (cs : List Char) : Bool :=
  (cs.head?.any (Digits.isDigit 10)) && isGrouped 10 cs

/-- A text cut at every colon. -/
def colonParts (cs : List Char) : List (List Char) :=
  cs.foldr (fun c parts =>
    match parts with
    | part :: rest => if c = ':' then [] :: part :: rest else (c :: part) :: rest
    | [] => []) [[]]

/-- Whether a text is a number below sixty, with one or two digits. -/
def isSixtieth : List Char → Bool
  | [c] => Digits.isDigit 10 c
  | [b, c] => Digits.isDigit 6 b && Digits.isDigit 10 c
  | _ => false

/-- Whether a text is a number in base sixty. -/
def isSexagesimal (cs : List Char) : Bool :=
  match colonParts cs with
  | lead :: rest => isNumeral lead && !rest.isEmpty && rest.all isSixtieth
  | [] => false

/-- Whether a scalar is a whole number. -/
def isInt (cs : List Char) : Bool :=
  match unsigned cs with
  | ['0'] => true
  | '0' :: 'b' :: ds => !ds.isEmpty && isGrouped 2 ds
  | '0' :: 'x' :: ds => !ds.isEmpty && isGrouped 16 ds
  | '0' :: ds => isGrouped 8 ds
  | ds => isNumeral ds || isSexagesimal ds

/-- Whether a text is empty or an exponent with a sign. -/
def isExponent : List Char → Bool
  | [] => true
  | e :: sign :: ds =>
    (e = 'e' || e = 'E') && (sign = '+' || sign = '-') && !ds.isEmpty &&
      ds.all (Digits.isDigit 10)
  | _ => false

/-- Whether a text is digits and underscores with an exponent after them, or without one. -/
def isFraction (cs : List Char) : Bool :=
  isExponent (cs.dropWhile fun c => Digits.isDigit 10 c || c = '_')

/-- Whether a scalar is a number with a point. -/
def isFloat (cs : List Char) : Bool :=
  let whole := (unsigned cs).takeWhile (· ≠ '.')
  let fraction := ((unsigned cs).dropWhile (· ≠ '.')).drop 1
  let isPoint := (unsigned cs).contains '.'
  let word := String.ofList fraction
  isPoint &&
    if whole.isEmpty then
      ["inf", "Inf", "INF"].contains word ||
        (cs.head? = some '.' &&
          (["nan", "NaN", "NAN"].contains word ||
            (fraction.head?.any (Digits.isDigit 10) && isFraction fraction)))
    else
      (isNumeral whole && isFraction fraction) || (isSexagesimal whole && isGrouped 10 fraction)

/-- The parts of a date, and of a time of day with it if there is one. -/
structure Stamp where
  year : Nat
  month : Nat
  day : Nat
  /-- Whether the month and the day have two digits. -/
  isWide : Bool
  /-- Hour, minute, second, the digits of the fraction. -/
  time : Option (Nat × Nat × Nat × List Char)
  /-- The offset from universal time in minutes. -/
  offset : Option Int

/-- One or two digits: the number, how many there are, and the rest. -/
def oneOrTwo (cs : List Char) : Option (Nat × Nat × List Char) :=
  let ds := (cs.take 2).takeWhile (Digits.isDigit 10)
  if ds.isEmpty then none else some (Digits.toNat 10 ds, ds.length, cs.drop ds.length)

/-- A character that must come next. -/
def expected (c : Char) : List Char → Option (List Char)
  | d :: cs => if d = c then some cs else none
  | [] => none

/-- The offset at the end of a time of day: nothing, a `Z`, or a number of hours and minutes. -/
def stampOffset (cs : List Char) : Option (Option Int) :=
  match cs with
  | [] => some none
  | _ =>
    match cs.dropWhile fun c => c = ' ' || c = '\t' with
    | ['Z'] => some (some 0)
    | sign :: rest =>
      if sign = '+' ∨ sign = '-' then do
        let (hours, _, rest) ← oneOrTwo rest
        let minutes ←
          match rest with
          | [] => some 0
          | _ => do
            let (n, width, rest) ← oneOrTwo (← expected ':' rest)
            if width = 2 ∧ rest.isEmpty then some n else none
        let total : Int := hours * 60 + minutes
        return some (if sign = '-' then -total else total)
      else none
    | [] => none

/-- The time of day after a date. -/
def stampTime (cs : List Char) : Option ((Nat × Nat × Nat × List Char) × Option Int) := do
  let cs ←
    match cs with
    | 'T' :: rest => some rest
    | 't' :: rest => some rest
    | _ =>
      let rest := cs.dropWhile fun c => c = ' ' || c = '\t'
      if rest.length < cs.length then some rest else none
  let (hour, _, cs) ← oneOrTwo cs
  let (minute, minuteWidth, cs) ← oneOrTwo (← expected ':' cs)
  let (second, secondWidth, cs) ← oneOrTwo (← expected ':' cs)
  if minuteWidth ≠ 2 ∨ secondWidth ≠ 2 then none
  let (fraction, cs) :=
    match cs with
    | '.' :: rest =>
      (rest.takeWhile (Digits.isDigit 10), rest.dropWhile (Digits.isDigit 10))
    | _ => ([], cs)
  let offset ← stampOffset cs
  return ((hour, minute, second, fraction), offset)

/-- The parts of a date with or without a time of day. -/
def stamp? (cs : List Char) : Option Stamp := do
  let (year, cs) ← Digits.exactly? 4 cs
  let (month, monthWidth, cs) ← oneOrTwo (← expected '-' cs)
  let (day, dayWidth, cs) ← oneOrTwo (← expected '-' cs)
  let isWide := monthWidth = 2 && dayWidth = 2
  match cs with
  | [] => return ⟨year, month, day, isWide, none, none⟩
  | _ =>
    let (time, offset) ← stampTime cs
    return ⟨year, month, day, isWide, some time, offset⟩

/-- Whether a scalar is a date, or a date with a time of day. -/
def isTimestamp (cs : List Char) : Bool := (stamp? cs).any fun s => s.isWide || s.time.isSome

/-- The tag of a scalar without quotes. -/
def ofPlain (s : String) : Tag :=
  if isBool s then .bool
  else if isFloat s.toList then .float
  else if isInt s.toList then .int
  else if s = "<<" then .merge
  else if isNull s then .null
  else if isTimestamp s.toList then .timestamp
  else if s = "=" then .default
  else .text

end Tag

end CrateAtlas.Yaml
