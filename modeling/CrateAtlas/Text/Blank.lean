/-!
# White space

Two classes of blank characters are in use.  `isGap` is the white space of ASCII, which separates
the tokens of source code.  `isBlank` is the Unicode property `White_Space` with the four
information separators U+001C to U+001F; it is the class that `trim` removes from both ends of a
text.
-/

set_option autoImplicit false

namespace CrateAtlas.Text

/-- White space of ASCII. -/
def isGap (c : Char) : Bool := (9 ≤ c.toNat && c.toNat ≤ 13) || c = ' '

/-- The Unicode property `White_Space`. -/
def isSpace (c : Char) : Bool :=
  let n := c.toNat
  (9 ≤ n && n ≤ 13) || n = 32 || n = 0x85 || n = 0xA0 || n = 0x1680 ||
    (0x2000 ≤ n && n ≤ 0x200A) || n = 0x2028 || n = 0x2029 || n = 0x202F || n = 0x205F ||
    n = 0x3000

/-- White space or one of the information separators. -/
def isBlank (c : Char) : Bool := isSpace c || (0x1C ≤ c.toNat && c.toNat ≤ 0x1F)

/-- Removes the characters of a class from both ends. -/
def trimBy (p : Char → Bool) (cs : List Char) : List Char :=
  ((cs.dropWhile p).reverse.dropWhile p).reverse

/-- Removes blank characters from both ends. -/
def trim (cs : List Char) : List Char := trimBy isBlank cs

end CrateAtlas.Text
