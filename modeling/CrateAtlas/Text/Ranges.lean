/-!
# Sets of code points given by their boundaries

A set of characters is described by the ascending list of the code points at which membership
changes: the first starts a range, the second is the first code point after it, and so on.
`Ranges.contains` finds the number of boundaries at or below a code point by bisection; the code
point is in the set when that number is odd.
-/

set_option autoImplicit false

namespace CrateAtlas.Text

/-- A set of code points, as the ascending list of places where membership changes. -/
structure Ranges where
  bounds : Array Nat

namespace Ranges

/-- The number of boundaries at or below `n`, known to lie between `lo` and `hi`. -/
def rank (bounds : Array Nat) (n : Nat) : Nat → Nat → Nat → Nat
  | 0, lo, _ => lo
  | fuel + 1, lo, hi =>
    if lo < hi then
      let mid := (lo + hi) / 2
      if bounds.getD mid 0 ≤ n then rank bounds n fuel (mid + 1) hi
      else rank bounds n fuel lo mid
    else lo

/-- Whether a code point is in the set. -/
def contains (r : Ranges) (c : Char) : Bool :=
  rank r.bounds c.toNat (r.bounds.size + 1) 0 r.bounds.size % 2 = 1

end Ranges

end CrateAtlas.Text
