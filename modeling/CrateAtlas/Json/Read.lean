import CrateAtlas.Json

/-!
# Reading JSON

`Json.read?` reads a whole document and gives `none` for a text that is not one.  Members of an
object are kept in the order of the text.

The reader works on the remaining characters: each function takes them, and gives what it read
together with what is left.  Nesting is bounded by the length of the text, which is the fuel of
`valueAt?`.
-/

set_option autoImplicit false

namespace CrateAtlas.Json

/-- The four characters that may stand between tokens. -/
def isSpace (c : Char) : Bool := c = ' ' || c = '\n' || c = '\r' || c = '\t'

/-- Drops the white space in front. -/
def skipSpace (cs : List Char) : List Char := cs.dropWhile isSpace

/-- Drops the given text from the front, if it stands there. -/
def dropText? : List Char → List Char → Option (List Char)
  | [], cs => some cs
  | _ :: _, [] => none
  | t :: ts, c :: cs => if t = c then dropText? ts cs else none

/-! ## Strings -/

/-- The value of a hexadecimal digit. -/
def hexValue? (c : Char) : Option Nat :=
  if '0' ≤ c ∧ c ≤ '9' then some (c.toNat - 48)
  else if 'a' ≤ c ∧ c ≤ 'f' then some (c.toNat - 87)
  else if 'A' ≤ c ∧ c ≤ 'F' then some (c.toNat - 55)
  else none

/-- The 16-bit unit written with the four digits in front. -/
def unit? : List Char → Option (Nat × List Char)
  | a :: b :: c :: d :: cs => do
    let a ← hexValue? a
    let b ← hexValue? b
    let c ← hexValue? c
    let d ← hexValue? d
    return (a * 4096 + b * 256 + c * 16 + d, cs)
  | _ => none

/-- The character of a one-letter escape. -/
def shortEscape? (c : Char) : Option Char :=
  if c = '"' ∨ c = '\\' ∨ c = '/' then some c
  else if c = 'n' then some '\n'
  else if c = 'r' then some '\r'
  else if c = 't' then some '\t'
  else if c = 'b' then some (Char.ofNat 8)
  else if c = 'f' then some (Char.ofNat 12)
  else none

/-- The character written by a `\u` escape whose unit is `u`: the unit itself, or the code point
of the surrogate pair that it starts. -/
def unitChar? (u : Nat) (cs : List Char) : Option (Char × List Char) :=
  if 55296 ≤ u ∧ u < 56320 then
    match cs with
    | '\\' :: 'u' :: cs => do
      let (v, cs) ← unit? cs
      if 56320 ≤ v ∧ v < 57344 then
        return (Char.ofNat (65536 + (u - 55296) * 1024 + (v - 56320)), cs)
      else none
    | _ => none
  else some (Char.ofNat u, cs)

/-- The characters up to the closing quote, which is dropped. -/
def stringBody? : Nat → List Char → Option (List Char × List Char)
  | 0, _ => none
  | _ + 1, [] => none
  | _ + 1, '"' :: cs => some ([], cs)
  | fuel + 1, '\\' :: 'u' :: cs => do
    let (u, cs) ← unit? cs
    let (c, cs) ← unitChar? u cs
    let (s, cs) ← stringBody? fuel cs
    return (c :: s, cs)
  | fuel + 1, '\\' :: e :: cs => do
    let c ← shortEscape? e
    let (s, cs) ← stringBody? fuel cs
    return (c :: s, cs)
  | fuel + 1, c :: cs => do
    if c = '\\' ∨ c.toNat < 32 then none
    let (s, cs) ← stringBody? fuel cs
    return (c :: s, cs)

/-! ## Numbers -/

/-- A run of digits with at least one digit. -/
def digits? (cs : List Char) : Option (List Char × List Char) :=
  match cs.span Char.isDigit with
  | ([], _) => none
  | (ds, rest) => some (ds, rest)

/-- The fraction of a number, if there is one. -/
def fraction? : List Char → Option (List Char × List Char)
  | '.' :: cs => (digits? cs).map fun (ds, rest) => ('.' :: ds, rest)
  | cs => some ([], cs)

/-- The exponent of a number, if there is one. -/
def exponent? : List Char → Option (List Char × List Char)
  | [] => some ([], [])
  | e :: cs =>
    if e = 'e' ∨ e = 'E' then
      match cs with
      | s :: rest =>
        if s = '+' ∨ s = '-' then
          (digits? rest).map fun (ds, rest) => (e :: s :: ds, rest)
        else (digits? cs).map fun (ds, rest) => (e :: ds, rest)
      | [] => none
    else some ([], e :: cs)

/-- A number, kept as it is spelled. -/
def number? (cs : List Char) : Option (Json × List Char) := do
  let (sign, cs) := match cs with
    | '-' :: rest => (['-'], rest)
    | _ => ([], cs)
  let (whole, cs) ← digits? cs
  let (frac, cs) ← fraction? cs
  let (exp, cs) ← exponent? cs
  return (.number (String.ofList (sign ++ whole ++ frac ++ exp)), cs)

/-! ## Values -/

mutual

/-- The value in front, which starts with its first character. -/
def valueAt? : Nat → List Char → Option (Json × List Char)
  | 0, _ => none
  | _ + 1, [] => none
  | fuel + 1, c :: cs =>
    if c = '"' then do
      let (s, cs) ← stringBody? (cs.length + 1) cs
      return (.string (String.ofList s), cs)
    else if c = '[' then
      match skipSpace cs with
      | ']' :: rest => some (.array [], rest)
      | rest => do
        let (vs, rest) ← itemsAt? fuel rest
        return (.array vs, rest)
    else if c = '{' then
      match skipSpace cs with
      | '}' :: rest => some (.object [], rest)
      | rest => do
        let (ms, rest) ← membersAt? fuel rest
        return (.object ms, rest)
    else if c = 'n' then (dropText? ['u', 'l', 'l'] cs).map fun rest => (.null, rest)
    else if c = 't' then (dropText? ['r', 'u', 'e'] cs).map fun rest => (.bool true, rest)
    else if c = 'f' then (dropText? ['a', 'l', 's', 'e'] cs).map fun rest => (.bool false, rest)
    else number? (c :: cs)

/-- The items of an array up to its closing bracket. -/
def itemsAt? : Nat → List Char → Option (List Json × List Char)
  | 0, _ => none
  | fuel + 1, cs => do
    let (v, cs) ← valueAt? fuel cs
    match skipSpace cs with
    | ']' :: rest => return ([v], rest)
    | ',' :: rest =>
      let (vs, rest) ← itemsAt? fuel (skipSpace rest)
      return (v :: vs, rest)
    | _ => none

/-- The members of an object up to its closing brace. -/
def membersAt? : Nat → List Char → Option (List (String × Json) × List Char)
  | 0, _ => none
  | fuel + 1, cs =>
    match cs with
    | '"' :: cs => do
      let (k, cs) ← stringBody? (cs.length + 1) cs
      match skipSpace cs with
      | ':' :: cs =>
        let (v, cs) ← valueAt? fuel (skipSpace cs)
        match skipSpace cs with
        | '}' :: rest => return ([(String.ofList k, v)], rest)
        | ',' :: rest =>
          let (ms, rest) ← membersAt? fuel (skipSpace rest)
          return ((String.ofList k, v) :: ms, rest)
        | _ => none
      | _ => none
    | _ => none

end

/-- The value of a document, with white space around it. -/
def read? (text : String) : Option Json := do
  let cs := skipSpace text.toList
  let (v, rest) ← valueAt? (cs.length + 1) cs
  if (skipSpace rest).isEmpty then some v else none

end CrateAtlas.Json
