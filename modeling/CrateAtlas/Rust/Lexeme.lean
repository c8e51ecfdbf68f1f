import CrateAtlas.Text.Blank
import CrateAtlas.Text.Identifier

/-!
# Spelling of tokens

One function for each class of tokens gives the number of characters that a token of the class takes
at the start of a text, or `none` if there is no such token there.

* Comments: a line comment ends before the line feed, and a block comment may hold others.
* Numbers: a fraction or an exponent makes a float.  A point followed by a letter or by another
  point belongs to what comes after the number.
* Strings and characters: a backslash may stand before any character; `x` and `u` after it need
  their hexadecimal digits.
-/

set_option autoImplicit false

namespace CrateAtlas.Rust

open Text

/-- Whether a character is a decimal digit. -/
def isDigit (c : Char) : Bool := '0' ≤ c && c ≤ '9'

/-- Whether a character is a hexadecimal digit. -/
def isHexDigit (c : Char) : Bool :=
  isDigit c || ('a' ≤ c && c ≤ 'f') || ('A' ≤ c && c ≤ 'F')

/-- The number of characters of a class at the start. -/
def runLength (p : Char → Bool) : List Char → Nat
  | [] => 0
  | c :: cs => if p c then runLength p cs + 1 else 0

/-- Whether a text starts with another. -/
def startsWith (cs : List Char) (text : String) : Bool := text.toList.isPrefixOf cs

/-! ## Comments -/

/-- The length of a line comment. -/
def lineComment? : List Char → Option Nat
  | '/' :: '/' :: cs => some (2 + runLength (· ≠ '\n') cs)
  | _ => none

/-- What the last character of a block comment was, where it matters. -/
inductive CommentState where
  | plain
  | slash
  | star

/-- The number of characters up to the end of a block comment that is `depth` comments deep. -/
def blockRest? : CommentState → Nat → List Char → Option Nat
  | _, 0, _ => some 0
  | _, _, [] => none
  | .slash, depth + 1, c :: cs =>
    (blockRest? .plain (if c = '*' then depth + 2 else depth + 1) cs).map (· + 1)
  | .star, depth + 1, c :: cs =>
    if c = '*' then (blockRest? .star (depth + 1) cs).map (· + 1)
    else (blockRest? .plain (if c = '/' then depth else depth + 1) cs).map (· + 1)
  | .plain, depth + 1, c :: cs =>
    let state := if c = '/' then .slash else if c = '*' then .star else .plain
    (blockRest? state (depth + 1) cs).map (· + 1)

/-- The length of a block comment.  A mark of documentation after the opening is not part of the
contents, so the slash of an empty comment may follow it directly. -/
def blockComment? : List Char → Option Nat
  | '/' :: '*' :: cs =>
    let contents (n : Nat) (cs : List Char) : Option Nat :=
      match cs with
      | '*' :: '/' :: _ => some (n + 2)
      | _ => (blockRest? .plain 1 cs).map (n + ·)
    match cs with
    | '!' :: rest => contents 3 rest
    | '*' :: '/' :: _ => some 4
    | '*' :: '*' :: _ => contents 2 cs
    | '*' :: rest => contents 3 rest
    | _ => contents 2 cs
  | _ => none

/-! ## Names -/

/-- The length of an identifier, with the mark of a raw identifier if there is one. -/
def identifier? (cs : List Char) : Option Nat :=
  let plain : List Char → Option Nat
    | c :: rest => if isIdStart c then some (1 + runLength isIdContinue rest) else none
    | [] => none
  match cs with
  | 'r' :: '#' :: rest => ((plain rest).map (2 + ·)).or (plain cs)
  | _ => plain cs

/-- The length of a macro variable, whose name is plain ASCII. -/
def metavariable? : List Char → Option Nat
  | '$' :: c :: rest =>
    if c.isAlpha || c = '_' then some (2 + runLength (fun c => c.isAlphanum || c = '_') rest)
    else none
  | _ => none

/-! ## Numbers -/

/-- The types that may end a number. -/
def numericTypes : List String :=
  ["u8", "i8", "u16", "i16", "u32", "i32", "u64", "i64", "u128", "i128", "isize", "usize", "f32",
    "f64"]

/-- The longest length that digits of a class allow, with or without a type after some of them. -/
def digitsWithType (p : Char → Bool) (least : Nat) (cs : List Char) : Option Nat :=
  let n := runLength p cs
  if n < least then none
  else
    let typed := (List.range (n + 1)).flatMap fun k =>
      if k < least then []
      else
        let rest := cs.drop k
        numericTypes.filterMap fun t => if startsWith rest t then some (k + t.length) else none
    some (typed.foldl max n)

/-- The length of an integer literal. -/
def integer? (cs : List Char) : Option Nat :=
  let decimal := match cs with
    | c :: rest =>
      if isDigit c then
        (digitsWithType (fun c => isDigit c || c = '_') 0 rest).map (1 + ·)
      else none
    | [] => none
  let based := match cs with
    | '0' :: 'x' :: rest => (digitsWithType (fun c => isHexDigit c || c = '_') 1 rest).map (2 + ·)
    | '0' :: 'b' :: rest =>
      (digitsWithType (fun c => c = '0' || c = '1' || c = '_') 1 rest).map (2 + ·)
    | '0' :: 'o' :: rest =>
      (digitsWithType (fun c => ('0' ≤ c && c ≤ '7') || c = '_') 1 rest).map (2 + ·)
    | _ => none
  match decimal, based with
  | some a, some b => some (max a b)
  | some a, none => some a
  | none, b => b

/-- Whether a character may stand among the digits of a number. -/
def isNumChar (c : Char) : Bool := isDigit c || c = '_'

/-- The length of the type after a float of length `n`: one letter and digits. -/
def floatType (n : Nat) : List Char → Nat
  | t :: d :: rest =>
    if (t = 'u' || t = 'i' || t = 'f') && isDigit d then n + 2 + runLength isDigit rest else n
  | _ => n

/-- The length of a float whose digits, and fraction if `hasFraction`, take `n` characters. -/
def floatTail (hasFraction : Bool) (n : Nat) (cs : List Char) : Option Nat :=
  match cs with
  | e :: rest =>
    if e = 'e' || e = 'E' then
      let signed := match rest with
        | s :: _ => s = '+' || s = '-'
        | [] => false
      let skip := if signed then 1 else 0
      let digits := runLength isNumChar (rest.drop skip)
      if digits = 0 then some n
      else some (floatType (n + 1 + skip + digits) (rest.drop (skip + digits)))
    else if hasFraction then some (floatType n cs)
    else none
  | [] => if hasFraction then some n else none

/-- The length of a float literal. -/
def float? (cs : List Char) : Option Nat :=
  match cs with
  | c :: rest =>
    if isDigit c then
      let n := 1 + runLength isNumChar rest
      match cs.drop n with
      | '.' :: after =>
        match after with
        | d :: _ =>
          if d = '.' || (isIdStart d && d ≠ '_') then none
          else
            let m := runLength isNumChar after
            floatTail true (n + 1 + m) (after.drop m)
        | [] => some (n + 1)
      | after => floatTail false n after
    else none
  | [] => none

/-! ## Characters and strings -/

/-- The length of an escape sequence. -/
def escape? : List Char → Option Nat
  | '\\' :: 'x' :: a :: b :: _ => if isHexDigit a && isHexDigit b then some 4 else none
  | '\\' :: 'x' :: _ => none
  | '\\' :: 'u' :: '{' :: rest =>
    let n := runLength isHexDigit rest
    match rest.drop n with
    | '}' :: _ => if n = 0 then none else some (n + 4)
    | _ => none
  | '\\' :: 'u' :: rest => if 4 ≤ runLength isHexDigit rest then some 6 else none
  | '\\' :: _ :: _ => some 2
  | _ => none

/-- The single quote. -/
def quoteMark : Char := Char.ofNat 39

/-- The length of a character literal that starts with its quote. -/
def quoted? (cs : List Char) : Option Nat :=
  match cs with
  | q :: rest =>
    if q = quoteMark then
      match rest with
      | c :: after =>
        if c = quoteMark then some 2
        else if c = '\\' then
          (escape? rest).bind fun n => if (rest.drop n).head? = some quoteMark then some (n + 2)
            else none
        else if after.head? = some quoteMark then some 3
        else none
      | [] => none
    else none
  | [] => none

/-- The length of a character or byte literal. -/
def character? (cs : List Char) : Option Nat :=
  match cs with
  | 'b' :: rest => (quoted? rest).map (1 + ·)
  | _ => quoted? cs

/-- Whether a string literal starts here. -/
def startsString : List Char → Bool
  | '"' :: _ => true
  | c :: '"' :: _ => c = 'b' || c = 'c'
  | _ => false

/-- The number of characters up to the closing quote of a string, which is counted. -/
def stringRest? : Nat → List Char → Option Nat
  | 0, _ => none
  | _, [] => none
  | fuel + 1, c :: cs =>
    if c = '"' then some 1
    else if c = '\\' then
      (escape? (c :: cs)).bind fun n => (stringRest? fuel ((c :: cs).drop n)).map (n + ·)
    else (stringRest? fuel cs).map (1 + ·)

/-- The length of a string literal. -/
def string? (cs : List Char) : Option Nat :=
  match cs with
  | '"' :: rest => (stringRest? (rest.length + 1) rest).map (1 + ·)
  | _ :: '"' :: rest => (stringRest? (rest.length + 1) rest).map (2 + ·)
  | _ => none

/-- The number of hashes of a raw string literal that starts here, and the length of its
opening. -/
def rawOpening? (cs : List Char) : Option (Nat × Nat) :=
  let plain (n : Nat) : List Char → Option (Nat × Nat)
    | 'r' :: rest =>
      let h := runLength (· = '#') rest
      if (rest.drop h).head? = some '"' then some (h, n + h + 2) else none
    | _ => none
  match cs with
  | c :: rest => if c = 'b' || c = 'c' then plain 1 rest else plain 0 cs
  | [] => none

/-- The number of characters up to the end of a raw string with the given number of hashes. -/
def rawRest? (hashes : Nat) : List Char → Option Nat
  | [] => none
  | c :: cs =>
    if c = '"' && hashes ≤ runLength (· = '#') cs then some (1 + hashes)
    else (rawRest? hashes cs).map (1 + ·)

/-! ## The line that names an interpreter -/

/-- The length of the line at the start of a script, with its line feed.  A bracket right after the
two signs makes it an attribute instead. -/
def shebang? : List Char → Option Nat
  | '#' :: '!' :: cs =>
    let line := runLength (· ≠ '\n') cs
    if (cs.drop line).isEmpty || cs.head? = some '[' then none else some (2 + line + 1)
  | _ => none

end CrateAtlas.Rust
