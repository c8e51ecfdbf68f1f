/-!
# Places in a YAML text

A place in a text, with what is still to be read, the number of characters before it, the line and
the column.  Beyond the end of the text stands the character NUL, which cannot be part of a text.
-/

set_option autoImplicit false

namespace CrateAtlas.Yaml

/-- Whether a character may stand in a text. -/
def isAllowed (c : Char) : Bool :=
  let n := c.toNat
  n = 9 || n = 10 || n = 13 || (0x20 ≤ n && n ≤ 0x7E) || n = 0x85 || (0xA0 ≤ n && n ≤ 0xD7FF) ||
    (0xE000 ≤ n && n ≤ 0xFFFD) || 0x10000 ≤ n

/-- What stands beyond the end of a text. -/
def finis : Char := Char.ofNat 0

/-- Whether a character ends a line. -/
def isBreak (c : Char) : Bool :=
  c = '\n' || c = '\r' || c.toNat = 0x85 || c.toNat = 0x2028 || c.toNat = 0x2029

/-- Whether a line ends here. -/
def endsLine (c : Char) : Bool := c = finis || isBreak c

/-- Whether a line or a word ends here. -/
def endsWord (c : Char) : Bool := c = ' ' || endsLine c

/-- Whether a line or a word ends here, counting tabs as blanks. -/
def endsToken (c : Char) : Bool := c = '\t' || endsWord c

/-- Whether a character may stand in the name of an anchor or a tag. -/
def isNameChar (c : Char) : Bool :=
  ('0' ≤ c && c ≤ '9') || ('a' ≤ c && c ≤ 'z') || ('A' ≤ c && c ≤ 'Z') || c = '-' || c = '_'

/-- A place in a text. -/
structure Place where
  rest : List Char
  index : Nat
  line : Nat
  column : Nat
deriving Inhabited

namespace Place

/-- The place at the start of a text. -/
def start (text : List Char) : Place := ⟨text, 0, 0, 0⟩

/-- The character `k` characters further on. -/
def ahead (p : Place) (k : Nat) : Char := (p.rest.drop k).headD finis

/-- The next character. -/
def peek (p : Place) : Char := p.ahead 0

/-- The place after the next `n` characters.  A byte order mark takes no column. -/
def skip (p : Place) : Nat → Place
  | 0 => p
  | n + 1 =>
    match p.rest with
    | [] => p
    | c :: rest =>
      let p :=
        if isBreak c && !(c = '\r' && rest.head? = some '\n') then
          (⟨rest, p.index + 1, p.line + 1, 0⟩ : Place)
        else ⟨rest, p.index + 1, p.line, if c.toNat = 0xFEFF then p.column else p.column + 1⟩
      p.skip n

/-- The next `n` characters. -/
def take (p : Place) (n : Nat) : List Char := p.rest.take n

/-- The characters of a class from here on. -/
def run (p : Place) (f : Char → Bool) : List Char := p.rest.takeWhile f

/-- The place after the characters of a class. -/
def skipRun (p : Place) (f : Char → Bool) : Place := p.skip (p.run f).length

/-- The place after spaces. -/
def skipSpaces (p : Place) : Place := p.skipRun (· = ' ')

/-- The place at the end of the line. -/
def skipLine (p : Place) : Place := p.skipRun fun c => !endsLine c

/-- The line break at a place, as it counts in a scalar, and the place after it. -/
def lineBreak (p : Place) : List Char × Place :=
  let c := p.peek
  if c = '\r' && p.ahead 1 = '\n' then (['\n'], p.skip 2)
  else if c = '\r' || c = '\n' || c.toNat = 0x85 then (['\n'], p.skip 1)
  else if isBreak c then ([c], p.skip 1)
  else ([], p)

/-- Whether three equal characters stand here as a word of their own. -/
def isMarker (p : Place) (c : Char) : Bool := p.take 3 = [c, c, c] && endsToken (p.ahead 3)

/-- Whether a marker between documents stands here. -/
def isSeparator (p : Place) : Bool := p.isMarker '-' || p.isMarker '.'

end Place

end CrateAtlas.Yaml
