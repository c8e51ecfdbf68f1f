/-!
# Digits

Reading natural numbers in a base from their digits, and telling which characters are digits.
-/

set_option autoImplicit false

namespace CrateAtlas.Digits

/-- The value of a character as a digit; letters of either case follow the ten figures. -/
def value? (c : Char) : Option Nat :=
  if '0' ≤ c ∧ c ≤ '9' then some (c.toNat - 48)
  else if 'a' ≤ c ∧ c ≤ 'z' then some (c.toNat - 87)
  else if 'A' ≤ c ∧ c ≤ 'Z' then some (c.toNat - 55)
  else none

/-- Whether a character is a digit of the given base. -/
def isDigit (base : Nat) (c : Char) : Bool := (value? c).any (· < base)

/-- The number with the given digits. -/
def toNat (base : Nat) (digits : List Char) : Nat :=
  digits.foldl (fun n c => n * base + (value? c).getD 0) 0

/-- The most digits with which a whole number in decimal notation is read or written. -/
def limit : Nat := 4300

/-- The digits at the start of a text, in which a single underscore may stand between two digits,
without the underscores; and the rest of the text. -/
def grouped (base : Nat) : List Char → List Char × List Char
  | [] => ([], [])
  | '_' :: c :: cs =>
    if isDigit base c then
      let (ds, rest) := grouped base cs
      (c :: ds, rest)
    else ([], '_' :: c :: cs)
  | c :: cs =>
    if isDigit base c then
      let (ds, rest) := grouped base cs
      (c :: ds, rest)
    else ([], c :: cs)

/-- Digits that start with a digit, with single underscores between digits. -/
def grouped? (base : Nat) (cs : List Char) : Option (List Char × List Char) :=
  match cs with
  | c :: _ => if isDigit base c then some (grouped base cs) else none
  | [] => none

/-- Exactly `n` decimal digits, as a number, and the rest of the text. -/
def exactly? (n : Nat) (cs : List Char) : Option (Nat × List Char) :=
  let ds := cs.take n
  if ds.length = n ∧ ds.all (isDigit 10) then some (toNat 10 ds, cs.drop n) else none

end CrateAtlas.Digits
