import CrateAtlas.Number.Calendar
import CrateAtlas.Number.Digits
import CrateAtlas.Text.Quoted

/-!
# Scalars of TOML

The values of TOML that hold no other values: strings of the four forms, truth values, integers,
floating-point numbers, dates and times.  Each reader takes a text and gives a value and the rest of
the text, or nothing if the text does not start with such a value.

Not every whole number is read: one that is written with too many decimal digits is a fault of its
own kind.
-/

set_option autoImplicit false

namespace CrateAtlas.Toml

/-- A reader: a result and the rest of the text. -/
abbrev Reader (α : Type) := List Char → Option (α × List Char)

/-- Why a text is not read as TOML. -/
inductive Fault where
  | invalid
  /-- A whole number in decimal notation has more digits than are read. -/
  | tooManyDigits (count : Nat)
deriving DecidableEq, Repr

/-- Whether a character is blank space inside a line. -/
def isGap (c : Char) : Bool := c = ' ' || c = '\t'

/-- Whether a character is blank space or ends a line. -/
def isGapOrBreak (c : Char) : Bool := isGap c || c = '\n'

/-- Whether a character may not stand in comments and strings of one line. -/
def isControl (c : Char) : Bool := (c.toNat < 32 && c ≠ '\t') || c.toNat = 127

/-- Whether a character may not stand in strings of several lines. -/
def isControlInLines (c : Char) : Bool := isControl c && c ≠ '\n'

/-- The single quote. -/
def quote : Char := Text.apostrophe

/-- Drops blank space inside a line. -/
def skipGaps (cs : List Char) : List Char := cs.dropWhile isGap

/-- Drops a comment, if one starts here; `none` if it holds a control character. -/
def skipComment (cs : List Char) : Option (List Char) :=
  match cs with
  | '#' :: rest =>
    if (rest.takeWhile (· ≠ '\n')).any isControl then none else some (rest.dropWhile (· ≠ '\n'))
  | _ => some cs

/-! ## Strings -/

/-- The character of a hexadecimal escape. -/
def hexChar? (digits : List Char) : Option Char :=
  if digits.all (Digits.isDigit 16) then
    let n := Digits.toNat 16 digits
    if n < 0xD800 ∨ (0xDFFF < n ∧ n < 0x110000) then some (Char.ofNat n) else none
  else none

/-- The character that a backslash and a letter stand for. -/
def escaped? (c : Char) : Option Char :=
  if c = 'b' then some (Char.ofNat 8)
  else if c = 't' then some '\t'
  else if c = 'n' then some '\n'
  else if c = 'f' then some (Char.ofNat 12)
  else if c = 'r' then some '\r'
  else if c = '"' ∨ c = '\\' then some c
  else none

/-- What may come next in a string of several lines. -/
inductive Mode where
  | plain
  /-- After a backslash and a blank: only blanks up to the end of the line. -/
  | lineEnd
  /-- After a backslash at the end of a line: blank space and line ends are dropped. -/
  | skipping
deriving DecidableEq

/-- Reads a string with escapes up to its closing quotes; `acc` holds the characters so far,
backwards. -/
def basic (multiline : Bool) (mode : Mode) (acc : List Char) (cs : List Char) :
    Option (List Char × List Char) :=
  match mode, cs with
  | _, [] => none
  | .lineEnd, c :: rest =>
    if isGap c then basic multiline .lineEnd acc rest
    else if c = '\n' then basic multiline .skipping acc rest
    else none
  | .skipping, c :: rest =>
    if isGapOrBreak c then basic multiline .skipping acc rest
    else basic multiline .plain acc (c :: rest)
  | .plain, '"' :: rest =>
    if !multiline then some (acc.reverse, rest)
    else if rest.take 2 = ['"', '"'] then some (acc.reverse, rest.drop 2)
    else basic multiline .plain ('"' :: acc) rest
  | .plain, '\\' :: 'u' :: a :: b :: c :: d :: rest =>
    match hexChar? [a, b, c, d] with
    | some x => basic multiline .plain (x :: acc) rest
    | none => none
  | .plain, '\\' :: 'U' :: a :: b :: c :: d :: e :: f :: g :: h :: rest =>
    match hexChar? [a, b, c, d, e, f, g, h] with
    | some x => basic multiline .plain (x :: acc) rest
    | none => none
  | .plain, '\\' :: c :: rest =>
    if multiline && c = '\n' then basic multiline .skipping acc rest
    else if multiline && isGap c then basic multiline .lineEnd acc rest
    else
      match escaped? c with
      | some x => basic multiline .plain (x :: acc) rest
      | none => none
  | .plain, c :: rest =>
    if c = '\\' then none
    else if multiline then
      if isControlInLines c then none else basic multiline .plain (c :: acc) rest
    else if isControl c then none
    else basic multiline .plain (c :: acc) rest
termination_by (cs.length, if mode = .plain then 0 else 1)

/-- Reads a string without escapes on one line, after its opening quote. -/
def literal : Reader (List Char) := fun cs =>
  let body := cs.takeWhile (· ≠ quote)
  match cs.dropWhile (· ≠ quote) with
  | [] => none
  | _ :: rest => if body.any isControl then none else some (body, rest)

/-- Reads up to three single quotes; `acc` holds the characters so far, backwards. -/
def untilQuotes (acc : List Char) : Reader (List Char)
  | [] => none
  | c :: rest =>
    if c = quote && (rest.take 2 = [quote, quote]) then some (acc.reverse, rest.drop 2)
    else if isControlInLines c then none
    else untilQuotes (c :: acc) rest

/-- Up to two more quotes after the closing ones belong to the string. -/
def extraQuotes (q : Char) (s : List Char × List Char) : List Char × List Char :=
  let extra := (s.2.take 2).takeWhile (· = q)
  (s.1 ++ extra, s.2.drop extra.length)

/-- Drops a line end at the very start of a string of several lines. -/
def dropFirstBreak (cs : List Char) : List Char :=
  match cs with
  | '\n' :: rest => rest
  | _ => cs

/-- Reads a string of any form. -/
def string : Reader (List Char) := fun cs =>
  match cs with
  | '"' :: '"' :: '"' :: rest =>
    (basic true .plain [] (dropFirstBreak rest)).map (extraQuotes '"')
  | '"' :: rest => basic false .plain [] rest
  | c :: rest =>
    if c = quote then
      if rest.take 2 = [quote, quote] then
        (untilQuotes [] (dropFirstBreak (rest.drop 2))).map (extraQuotes quote)
      else literal rest
    else none
  | [] => none

/-! ## Numbers -/

/-- Reads an integer with a sign for its base. -/
def based : Reader Value := fun cs =>
  match cs with
  | '0' :: 'x' :: rest => (Digits.grouped? 16 rest).map (after 16)
  | '0' :: 'o' :: rest => (Digits.grouped? 8 rest).map (after 8)
  | '0' :: 'b' :: rest => (Digits.grouped? 2 rest).map (after 2)
  | _ => none
where
  /-- The value of the digits. -/
  after (base : Nat) (p : List Char × List Char) : Value × List Char :=
    (.int (Digits.toNat base p.1), p.2)

/-- Splits a sign off. -/
def sign (cs : List Char) : Bool × List Char :=
  match cs with
  | '+' :: rest => (false, rest)
  | '-' :: rest => (true, rest)
  | _ => (false, cs)

/-- The whole part of a decimal number: a zero, or digits that start with another one. -/
def whole? (cs : List Char) : Option (List Char × List Char) :=
  match cs with
  | '0' :: rest => some (['0'], rest)
  | _ => Digits.grouped? 10 cs

/-- The digits after a decimal point. -/
def fraction (cs : List Char) : List Char × List Char :=
  match cs with
  | '.' :: rest => (Digits.grouped? 10 rest).getD ([], cs)
  | _ => ([], cs)

/-- The exponent of a decimal number, if there is one. -/
def exponent (cs : List Char) : Option Int × List Char :=
  match cs with
  | c :: rest =>
    if c = 'e' ∨ c = 'E' then
      let (negative, rest) := sign rest
      match Digits.grouped? 10 rest with
      | some (ds, after) =>
        let n : Int := Digits.toNat 10 ds
        (some (if negative then -n else n), after)
      | none => (none, cs)
    else (none, cs)
  | [] => (none, cs)

/-- Reads a decimal integer or floating-point number. -/
def decimal (cs : List Char) : Except Fault (Value × List Char) :=
  let (negative, cs) := sign cs
  match whole? cs with
  | none => .error .invalid
  | some (digits, rest) =>
    let (places, rest) := fraction rest
    let (power, rest) := exponent rest
    if places.isEmpty && power.isNone then
      if Digits.limit < digits.length then .error (.tooManyDigits digits.length)
      else
        let n : Int := Digits.toNat 10 digits
        .ok (.int (if negative then -n else n), rest)
    else
      .ok (.float (.ofDecimal negative (Digits.toNat 10 (digits ++ places))
        (power.getD 0 - places.length)), rest)

/-- Reads an infinity or the number that is none. -/
def special : Reader Value := fun cs =>
  let (negative, rest) := sign cs
  match rest with
  | 'i' :: 'n' :: 'f' :: after => some (.float (.infinite negative), after)
  | 'n' :: 'a' :: 'n' :: after => some (.float .nan, after)
  | _ => none

/-! ## Dates and times -/

/-- Reads a number of two digits that is at most `greatest`. -/
def twoDigits (greatest : Nat) : Reader Nat := fun cs =>
  match Digits.exactly? 2 cs with
  | some (n, rest) => if n ≤ greatest then some (n, rest) else none
  | none => none

/-- Reads a given character. -/
def mark (c : Char) (cs : List Char) : Option (List Char) :=
  match cs with
  | d :: rest => if d = c then some rest else none
  | [] => none

/-- The microseconds after a point; further digits are dropped. -/
def micros (cs : List Char) : Nat × List Char :=
  match cs with
  | '.' :: rest =>
    let ds := rest.takeWhile (Digits.isDigit 10)
    if ds.isEmpty then (0, cs)
    else (Digits.toNat 10 ((ds ++ List.replicate 6 '0').take 6), rest.drop ds.length)
  | _ => (0, cs)

/-- Reads a time of the day. -/
def clock : Reader Clock := fun cs => do
  let (hour, cs) ← twoDigits 23 cs
  let (minute, cs) ← twoDigits 59 (← mark ':' cs)
  let (second, cs) ← twoDigits 59 (← mark ':' cs)
  let (micros, cs) := micros cs
  return (⟨hour, minute, second, micros⟩, cs)

/-- Reads an offset from universal time, if there is one. -/
def offset (cs : List Char) : Option Int × List Char :=
  match cs with
  | c :: rest =>
    if c = 'Z' ∨ c = 'z' then (some 0, rest)
    else if c = '+' ∨ c = '-' then
      match signedOffset rest with
      | some (n, after) => (some (if c = '-' then -n else n), after)
      | none => (none, cs)
    else (none, cs)
  | [] => (none, cs)
where
  /-- The hours and minutes of an offset, in seconds. -/
  signedOffset (cs : List Char) : Option (Int × List Char) := do
    let (hour, cs) ← twoDigits 23 cs
    let (minute, cs) ← twoDigits 59 (← mark ':' cs)
    return (((hour * 3600 + minute * 60 : Nat) : Int), cs)

/-- Reads a day, which need not exist. -/
def date : Reader Date := fun cs => do
  let (year, cs) ← Digits.exactly? 4 cs
  let (month, cs) ← twoDigits 12 (← mark '-' cs)
  let (day, cs) ← twoDigits 31 (← mark '-' cs)
  if month = 0 ∨ day = 0 then none else return (⟨year, month, day⟩, cs)

/-- The time after a day. -/
def timeAfter (cs : List Char) : Option (Clock × Option Int × List Char) :=
  match cs with
  | c :: rest =>
    if c = 'T' ∨ c = 't' ∨ c = ' ' then
      (clock rest).map fun (time, rest) =>
        let (offset, rest) := offset rest
        (time, offset, rest)
    else none
  | [] => none

/-- Reads a number, a date or a time.  A day that does not exist is no value at all. -/
def plain (cs : List Char) : Except Fault (Value × List Char) :=
  match date cs with
  | some (day, rest) =>
    match day.check with
    | .error _ => .error .invalid
    | .ok day =>
      match timeAfter rest with
      | some (time, offset, after) => .ok (.moment day time offset, after)
      | none => .ok (.date day, rest)
  | none =>
    match clock cs with
    | some (time, rest) => .ok (.clock time, rest)
    | none =>
      match (based cs).orElse fun _ => special cs with
      | some read => .ok read
      | none => decimal cs

end CrateAtlas.Toml
