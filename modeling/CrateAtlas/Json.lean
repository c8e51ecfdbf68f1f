/-!
# JSON values and their text

A JSON value keeps the members of an object in the order in which they were written, because order
is visible in every document this library produces or consumes.  A number is kept as it is spelled.

* `Json.render` writes a value.  Without an indent the whole value stands on one line; with an
  indent of `n` every item stands on a line of its own, `n` spaces deeper than its parent.
* The text is ASCII: every other character is written as one `\u` escape, or as a surrogate pair
  when it lies beyond the first 65536 code points.
-/

set_option autoImplicit false

namespace CrateAtlas

/-- A JSON value.  Members of an object stand in the order of the text. -/
inductive Json where
  | null
  | bool (value : Bool)
  | number (literal : String)
  | string (value : String)
  | array (items : List Json)
  | object (members : List (String × Json))

namespace Json

instance : Inhabited Json := ⟨.null⟩

/-- The number with the given integer value. -/
def int (n : Int) : Json := .number (toString n)

/-- The number with the given natural value. -/
def nat (n : Nat) : Json := .number (toString n)

/-- The array of the given strings. -/
def strings (items : List String) : Json := .array (items.map .string)

/-- The given text, or `null`. -/
def optional : Option String → Json
  | some s => .string s
  | none => .null

/-! ## Escapes -/

/-- The lower-case hexadecimal digit of a number below 16. -/
def hexDigit (n : Nat) : Char :=
  if n < 10 then Char.ofNat (48 + n) else Char.ofNat (87 + n)

/-- The escape `\uXXXX` of a 16-bit unit. -/
def unitEscape (u : Nat) : List Char :=
  ['\\', 'u', hexDigit (u / 4096 % 16), hexDigit (u / 256 % 16), hexDigit (u / 16 % 16),
    hexDigit (u % 16)]

/-- The text that stands for one character inside a quoted string. -/
def escape (c : Char) : List Char :=
  if c = '"' then ['\\', '"']
  else if c = '\\' then ['\\', '\\']
  else if c = '\n' then ['\\', 'n']
  else if c = '\r' then ['\\', 'r']
  else if c = '\t' then ['\\', 't']
  else if c.toNat = 8 then ['\\', 'b']
  else if c.toNat = 12 then ['\\', 'f']
  else if 32 ≤ c.toNat ∧ c.toNat < 127 then [c]
  else if c.toNat < 65536 then unitEscape c.toNat
  else
    let n := c.toNat - 65536
    unitEscape (55296 + n / 1024) ++ unitEscape (56320 + n % 1024)

/-- A string between quotes. -/
def quote (s : String) : List Char :=
  '"' :: (s.toList.flatMap escape ++ ['"'])

/-! ## Layout -/

/-- How items are laid out: on one line, or on lines of their own with the given number of spaces
for each level of nesting. -/
abbrev Indent := Option Nat

/-- What stands before the first item at nesting depth `depth`, and before the closing bracket. -/
def Indent.lead (i : Indent) (depth : Nat) : List Char :=
  match i with
  | none => []
  | some n => '\n' :: List.replicate (n * depth) ' '

/-- What stands between two items at nesting depth `depth`. -/
def Indent.between (i : Indent) (depth : Nat) : List Char :=
  match i with
  | none => [',', ' ']
  | some _ => ',' :: i.lead depth

mutual

/-- The text of a value whose items stand at nesting depth `depth + 1`. -/
def chars (i : Indent) (depth : Nat) : Json → List Char
  | .null => ['n', 'u', 'l', 'l']
  | .bool true => ['t', 'r', 'u', 'e']
  | .bool false => ['f', 'a', 'l', 's', 'e']
  | .number literal => literal.toList
  | .string s => quote s
  | .array [] => ['[', ']']
  | .array (v :: vs) =>
    '[' :: (i.lead (depth + 1) ++ chars i (depth + 1) v ++ itemChars i (depth + 1) vs ++
      i.lead depth ++ [']'])
  | .object [] => ['{', '}']
  | .object ((k, v) :: ms) =>
    '{' :: (i.lead (depth + 1) ++ quote k ++ [':', ' '] ++ chars i (depth + 1) v ++
      memberChars i (depth + 1) ms ++ i.lead depth ++ ['}'])

/-- The items after the first, each with the separator before it. -/
def itemChars (i : Indent) (depth : Nat) : List Json → List Char
  | [] => []
  | v :: vs => i.between depth ++ chars i depth v ++ itemChars i depth vs

/-- The members after the first, each with the separator before it. -/
def memberChars (i : Indent) (depth : Nat) : List (String × Json) → List Char
  | [] => []
  | (k, v) :: ms =>
    i.between depth ++ quote k ++ [':', ' '] ++ chars i depth v ++ memberChars i depth ms

end

/-- The document of a value. -/
def render (v : Json) (i : Indent) : String := String.ofList (v.chars i 0)

/-! ## Looking into a value -/

/-- The member of an object with the given name. -/
def get? (v : Json) (name : String) : Option Json :=
  match v with
  | .object members => members.lookup name
  | _ => none

/-- The text of a string value. -/
def string? : Json → Option String
  | .string s => some s
  | _ => none

/-- The items of an array value. -/
def items? : Json → Option (List Json)
  | .array items => some items
  | _ => none

/-- The truth value of a Boolean value. -/
def bool? : Json → Option Bool
  | .bool b => some b
  | _ => none

/-- The value of a number without fraction and exponent. -/
def int? : Json → Option Int
  | .number literal => literal.toInt?
  | _ => none

end Json

end CrateAtlas
