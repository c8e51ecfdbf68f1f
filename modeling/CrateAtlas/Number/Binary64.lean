/-!
# Binary floating-point numbers

Numbers with 53 bits of precision and eleven bits of exponent, as exact data: a mantissa times a
power of two.  Reading a decimal rounds to the nearest such number, a tie going to the even
mantissa; writing one gives the fewest digits that read back.

* `Binary64.ofRatio` — the number nearest to a quotient.
* `Binary64.shortest` — the fewest digits that read back, and of those the nearest.
* `Binary64.text` — the written form, positional where the exponent is small.
-/

set_option autoImplicit false

namespace CrateAtlas

/-- A binary floating-point number.  A finite one is `mantissa * 2 ^ exponent`, with the mantissa
below `2 ^ 53` and as large as the least exponent allows. -/
inductive Binary64 where
  | nan
  | infinite (negative : Bool)
  | finite (negative : Bool) (mantissa : Nat) (exponent : Int)
deriving DecidableEq, Repr, Inhabited

namespace Binary64

/-- The least exponent of a mantissa. -/
def leastExponent : Int := -1074

/-- The greatest exponent of a mantissa. -/
def greatestExponent : Int := 971

/-- Zero. -/
def zero (negative : Bool) : Binary64 := .finite negative 0 leastExponent

/-- A quotient divided by a power of two, as numerator and denominator. -/
def scale (num den : Nat) (e : Int) : Nat × Nat :=
  if 0 ≤ e then (num, den * Nat.pow 2 e.toNat) else (num * Nat.pow 2 (-e).toNat, den)

/-- The integer nearest to a quotient; a tie goes to the even neighbour. -/
def roundDiv (num den : Nat) : Nat :=
  let q := num / den
  let r := num % den
  if 2 * r < den then q
  else if den < 2 * r then q + 1
  else if q % 2 = 0 then q else q + 1

/-- The exponent with which the mantissa of a quotient has 53 bits, or fewer at the least
exponent. -/
def exponentOf (num den : Nat) : Int :=
  let e : Int := (num.log2 : Int) - (den.log2 : Int) - 53
  let (n, d) := scale num den e
  max (if n / d < Nat.pow 2 53 then e else e + 1) leastExponent

/-- The number nearest to a quotient of natural numbers. -/
def ofRatio (negative : Bool) (num den : Nat) : Binary64 :=
  if num = 0 ∨ den = 0 then zero negative
  else
    let e := exponentOf num den
    let (n, d) := scale num den e
    let m := roundDiv n d
    let (m, e) := if m = Nat.pow 2 53 then (Nat.pow 2 52, e + 1) else (m, e)
    if greatestExponent < e then .infinite negative else .finite negative m e

/-- The number nearest to `digits * 10 ^ exponent`. -/
def ofDecimal (negative : Bool) (digits : Nat) (exponent : Int) : Binary64 :=
  if digits = 0 then zero negative
  else if 400 < exponent then .infinite negative
  else if exponent < -400 - (digits.log2 : Int) then zero negative
  else if 0 ≤ exponent then ofRatio negative (digits * Nat.pow 10 exponent.toNat) 1
  else ofRatio negative digits (Nat.pow 10 (-exponent).toNat)

/-- The number with the other sign. -/
def neg : Binary64 → Binary64
  | .nan => .nan
  | .infinite s => .infinite !s
  | .finite s m e => .finite (!s) m e

/-- The number nearest to `n * 2 ^ e`. -/
def ofDyadic (n : Int) (e : Int) : Binary64 :=
  let (num, den) := scale n.natAbs 1 (-e)
  ofRatio (n < 0) num den

/-- A mantissa with its sign. -/
def signed (negative : Bool) (mantissa : Nat) : Int :=
  if negative then -(mantissa : Int) else mantissa

/-- The rounded sum. -/
def add : Binary64 → Binary64 → Binary64
  | .finite s m e, .finite t n f =>
    let least := min e f
    ofDyadic
      (signed s m * Int.pow 2 (e - least).toNat + signed t n * Int.pow 2 (f - least).toNat) least
  | .nan, _ => .nan
  | _, .nan => .nan
  | .infinite s, .infinite t => if s = t then .infinite s else .nan
  | .infinite s, _ => .infinite s
  | _, .infinite t => .infinite t

/-- The rounded product with a natural number. -/
def scaleBy : Binary64 → Nat → Binary64
  | .finite s m e, k => if m * k = 0 then zero s else ofDyadic (signed s m * k) e
  | .infinite s, k => if k = 0 then .nan else .infinite s
  | .nan, _ => .nan

/-- The integer that a number is equal to, if there is one. -/
def toInt? : Binary64 → Option Int
  | .finite s m e =>
    if 0 ≤ e then some (signed s (m * Nat.pow 2 e.toNat))
    else if m % Nat.pow 2 (-e).toNat = 0 then some (signed s (m / Nat.pow 2 (-e).toNat))
    else none
  | _ => none

/-- Whether a number is zero. -/
def isZero : Binary64 → Bool
  | .finite _ m _ => m = 0
  | _ => false

/-! ## Writing -/

/-- The ends of the interval of reals that round to `m * 2 ^ e`, and the number itself, as
numerators over one denominator. -/
def neighbourhood (m : Nat) (e : Int) : Nat × Nat × Nat × Nat :=
  let low := if m = Nat.pow 2 52 ∧ leastExponent < e then 4 * m - 1 else 4 * m - 2
  if 0 ≤ e - 2 then
    let k := Nat.pow 2 (e - 2).toNat
    (low * k, 4 * m * k, (4 * m + 2) * k, 1)
  else (low, 4 * m, 4 * m + 2, Nat.pow 2 (2 - e).toNat)

/-- The decimal exponent of a quotient: the greatest `k` with `10 ^ k` at most `num / den`, searched
downwards from a bound. -/
def decimalExponent (num den : Nat) : Nat → Int → Int
  | 0, k => k
  | fuel + 1, k =>
    let fits :=
      if 0 ≤ k then Nat.pow 10 k.toNat * den ≤ num else den ≤ num * Nat.pow 10 (-k).toNat
    if fits then k else decimalExponent num den fuel (k - 1)

/-- The best decimal with the given number of digits, if one reads back: the digits as a number. -/
def candidate? (low value high den : Nat) (closed : Bool) (unit : Int) : Option Nat :=
  let (p, q) : Nat × Nat :=
    if 0 ≤ unit then (1, Nat.pow 10 unit.toNat) else (Nat.pow 10 (-unit).toNat, 1)
  -- a digit string `f` stands for `f * q / p`
  let f := value * p / (den * q)
  let inside (d : Nat) : Bool :=
    let x := d * q * den
    if closed then low * p ≤ x && x ≤ high * p else low * p < x && x < high * p
  let below := value * p - f * q * den
  let above := (f + 1) * q * den - value * p
  match inside f, inside (f + 1) with
  | true, true =>
    if below < above then some f
    else if above < below then some (f + 1)
    else if f % 2 = 0 then some f else some (f + 1)
  | true, false => some f
  | false, true => some (f + 1)
  | false, false => none

/-- The first number of digits, from `n` on, with which a decimal reads back: the digits and the
exponent of the last one. -/
def searchDigits (low value high den : Nat) (closed : Bool) (top : Int) : Nat → Nat → Nat × Int
  | 0, _ => (0, 0)
  | fuel + 1, n =>
    let unit := top - (n : Int) + 1
    match candidate? low value high den closed unit with
    | some d => (d, unit)
    | none => searchDigits low value high den closed top fuel (n + 1)

/-- Moves zeros at the end of the digits to the exponent. -/
def dropZeros : Nat → Nat → Int → Nat × Int
  | 0, d, k => (d, k)
  | fuel + 1, d, k => if d ≠ 0 ∧ d % 10 = 0 then dropZeros fuel (d / 10) (k + 1) else (d, k)

/-- The fewest digits that read back as `m * 2 ^ e`, as a number `d` and an exponent `k` that stand
for `d * 10 ^ k`. -/
def shortest (m : Nat) (e : Int) : Nat × Int :=
  if m = 0 then (0, 0)
  else
    let (low, value, high, den) := neighbourhood m e
    let top := decimalExponent value den 700 310
    let (d, k) := searchDigits low value high den (m % 2 = 0) top 18 1
    dropZeros 20 d k

/-- The written form of `d * 10 ^ k`: positional if the first digit stands for `10 ^ -4` up to
`10 ^ 15`, with an exponent otherwise. -/
def decimalText (d : Nat) (k : Int) : String :=
  let digits := (toString d).toList
  let point : Int := digits.length + k
  if -4 < point ∧ point ≤ 16 then
    if point ≤ 0 then
      "0." ++ String.ofList (List.replicate (-point).toNat '0' ++ digits)
    else if k < 0 then
      String.ofList (digits.take point.toNat) ++ "." ++ String.ofList (digits.drop point.toNat)
    else String.ofList (digits ++ List.replicate k.toNat '0') ++ ".0"
  else
    let exponent := point - 1
    let size := toString exponent.natAbs
    let size := if size.length < 2 then "0" ++ size else size
    let fraction := if digits.length ≤ 1 then "" else "." ++ String.ofList (digits.drop 1)
    String.ofList (digits.take 1) ++ fraction ++ "e" ++ (if exponent < 0 then "-" else "+") ++ size

/-- The written form of a number. -/
def text : Binary64 → String
  | .nan => "nan"
  | .infinite s => if s then "-inf" else "inf"
  | .finite s m e =>
    let (d, k) := shortest m e
    (if s then "-" else "") ++ (if m = 0 then "0.0" else decimalText d k)

end Binary64

end CrateAtlas
