/-!
# Wildcard patterns

In a pattern a star stands for any number of characters, a question mark for one, and brackets for
one character of a set; everything else stands for itself.  A pattern has to match a whole text.

A *set* lists characters and ranges, and a leading exclamation mark turns it around.  A bracket that
comes first belongs to the set, and a bracket that is never closed stands for itself.  Ranges are
found from left to right: a hyphen makes a range of its two neighbours unless one of them is already
the end of a range, and a range that runs backwards is dropped.
-/

set_option autoImplicit false

namespace CrateAtlas.Text

/-- One piece of a pattern. -/
inductive Glyph where
  /-- Any number of characters. -/
  | many
  /-- Any one character. -/
  | any
  | char (c : Char)
  /-- A character that lies in one of the ranges, or in none of them. -/
  | set (negated : Bool) (ranges : List (Char × Char))
deriving DecidableEq, Repr

/-- Whether a piece that stands for one character matches it. -/
def Glyph.matches (g : Glyph) (c : Char) : Bool :=
  match g with
  | .many => true
  | .any => true
  | .char d => c = d
  | .set negated ranges =>
    (ranges.any fun (low, high) => low.toNat ≤ c.toNat && c.toNat ≤ high.toNat) != negated

/-! ## Sets -/

/-- Cuts the contents of a set at the hyphens that make ranges.  The first `skip` characters are no
such hyphens; `chunk` holds the current piece backwards.  Between a hyphen and the next one at least
two characters have to stand. -/
def chunks (skip : Nat) (chunk : List Char) : List Char → List (List Char)
  | [] => [chunk.reverse]
  | c :: cs =>
    match skip with
    | n + 1 => chunks n (c :: chunk) cs
    | 0 => if c = '-' then chunk.reverse :: chunks 2 [] cs else chunks 0 (c :: chunk) cs

/-- A hyphen at the very end belongs to the piece before it. -/
def mendLast : List (List Char) → List (List Char)
  | [] => []
  | [c] => [c]
  | [c, []] => [c ++ ['-']]
  | c :: rest => c :: mendLast rest

/-- Drops the ranges that run backwards, from right to left: their two ends go and the pieces are
joined. -/
def dropBackwards : List (List Char) → List (List Char)
  | [] => []
  | c :: rest =>
    match dropBackwards rest with
    | [] => [c]
    | d :: ds =>
      match c.getLast?, d.head? with
      | some x, some y => if y.toNat < x.toNat then (c.dropLast ++ d.drop 1) :: ds else c :: d :: ds
      | _, _ => c :: d :: ds

/-- The contents of a set with its range hyphens marked by `none`. -/
def markRanges : List (List Char) → List (Option Char)
  | [] => []
  | [c] => c.map some
  | c :: rest => c.map some ++ none :: markRanges rest

/-- The ranges of a set.  A mark that does not stand between two characters is a hyphen. -/
def rangesOf : List (Option Char) → List (Char × Char)
  | [] => []
  | a :: none :: some b :: rest => ((a.getD '-'), b) :: rangesOf rest
  | a :: rest => ((a.getD '-'), (a.getD '-')) :: rangesOf rest

/-- The piece for the contents of a pair of brackets.  An empty set matches nothing, and the
opposite of an empty set matches every character. -/
def setOf (contents : List Char) : Glyph :=
  let skip := if contents.head? = some '!' then 2 else 1
  let marked :=
    if contents.contains '-' then
      markRanges (dropBackwards (mendLast (chunks skip [] contents)))
    else contents.map some
  match marked with
  | [] => .set false []
  | some '!' :: rest => if rest.isEmpty then .any else .set true (rangesOf rest)
  | _ => .set false (rangesOf marked)

/-- The contents of the brackets that start here, and what follows them. -/
def bracketed? (cs : List Char) : Option (List Char × List Char) :=
  let bang := if cs.head? = some '!' then 1 else 0
  let first := bang + (if (cs.drop bang).head? = some ']' then 1 else 0)
  let inner := (cs.drop first).takeWhile (· ≠ ']')
  match (cs.drop first).dropWhile (· ≠ ']') with
  | [] => none
  | _ :: rest => some (cs.take first ++ inner, rest)

/-! ## Patterns -/

theorem length_of_bracketed? {cs inner rest : List Char}
    (h : bracketed? cs = some (inner, rest)) : rest.length < cs.length := by
  unfold bracketed? at h
  simp only at h
  split at h
  · simp at h
  · rename_i d r hd
    simp only [Option.some.injEq, Prod.mk.injEq] at h
    obtain ⟨-, rfl⟩ := h
    generalize hk : (if cs.head? = some '!' then 1 else 0) +
      (if (cs.drop (if cs.head? = some '!' then 1 else 0)).head? = some ']' then 1 else 0) = k at hd
    have h1 := ((cs.drop k).dropWhile_sublist (· ≠ ']')).length_le
    rw [hd] at h1
    simp only [List.length_cons, List.length_drop] at h1
    omega

/-- The pieces of a pattern. -/
def glyphs : List Char → List Glyph
  | [] => []
  | c :: cs =>
    if c = '*' then .many :: glyphs cs
    else if c = '?' then .any :: glyphs cs
    else if c = '[' then
      match _h : bracketed? cs with
      | none => .char '[' :: glyphs cs
      | some (inner, rest) => setOf inner :: glyphs rest
    else .char c :: glyphs cs
termination_by cs => cs.length
decreasing_by
  · simp
  · simp
  · simp
  · exact Nat.lt_succ_of_lt (length_of_bracketed? _h)
  · simp

/-- Which beginnings of a pattern match the empty text, from the shortest one on; `reached` says
whether the pieces before do. -/
def startRow (reached : Bool) : List Glyph → List Bool
  | [] => [reached]
  | g :: gs => reached :: startRow (reached && g = .many) gs

/-- Which beginnings of a pattern match a text that has become longer by one character, from which
ones matched before; `reached` says whether the pieces before match now. -/
def nextRow (c : Char) (reached : Bool) : List Glyph → List Bool → List Bool
  | g :: gs, before :: rest =>
    reached :: nextRow c
      (if g = .many then reached || rest.headD false else before && g.matches c) gs rest
  | _, _ => [reached]

/-- Whether the pieces match the whole text.  The text is read once, and all beginnings of the
pattern are followed side by side. -/
def matchAll (gs : List Glyph) (cs : List Char) : Bool :=
  (cs.foldl (fun row c => nextRow c false gs row) (startRow true gs)).getLastD false

/-- Whether a pattern matches the whole text. -/
def wildcard (pattern text : String) : Bool := matchAll (glyphs pattern.toList) text.toList

/-- Whether a pattern holds a wildcard. -/
def hasWildcard (pattern : String) : Bool :=
  pattern.toList.any fun c => c = '*' || c = '?' || c = '['

end CrateAtlas.Text
