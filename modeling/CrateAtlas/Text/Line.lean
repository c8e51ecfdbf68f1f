/-!
# Lines

`lines` cuts a text at every character or pair of characters that ends a line in the wide sense:
line feed, carriage return, the pair of both, vertical tab, form feed, the separators U+001C to
U+001E, next line, and the Unicode line and paragraph separators.  A break at the very end starts
no further line.

`unifyBreaks` is the narrow notion used when a file is read as text: a carriage return, alone or
before a line feed, becomes a line feed, and nothing else changes.
-/

set_option autoImplicit false

namespace CrateAtlas.Text

/-- Whether a character ends a line. -/
def isBreak (c : Char) : Bool :=
  let n := c.toNat
  (10 ≤ n && n ≤ 13) || (0x1C ≤ n && n ≤ 0x1E) || n = 0x85 || n = 0x2028 || n = 0x2029

/-- Cuts a text into lines; `line` holds the current line backwards. -/
def linesFrom (line : List Char) : List Char → List (List Char)
  | [] => if line.isEmpty then [] else [line.reverse]
  | '\r' :: '\n' :: cs => line.reverse :: linesFrom [] cs
  | c :: cs => if isBreak c then line.reverse :: linesFrom [] cs else linesFrom (c :: line) cs

/-- The lines of a text, without what ends them. -/
def lines (cs : List Char) : List (List Char) := linesFrom [] cs

/-- Turns every carriage return, with the line feed after it if there is one, into a line feed. -/
def unifyBreaks : List Char → List Char
  | [] => []
  | '\r' :: '\n' :: cs => '\n' :: unifyBreaks cs
  | c :: cs => if c = '\r' then '\n' :: unifyBreaks cs else c :: unifyBreaks cs

end CrateAtlas.Text
