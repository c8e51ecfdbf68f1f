import CrateAtlas.Grammar.Parse
import CrateAtlas.Rust.Token
import CrateAtlas.Rust.Lexeme

/-!
# Reading the next token

`scan` passes over white space and comments and reads one token of those that are of use to the
parser.  Of several tokens it takes the longest.

**Keywords are names where they cannot be keywords.**  A word is read whole.  It is a keyword if the
parser can use that keyword here, and an identifier otherwise.
-/

set_option autoImplicit false

namespace CrateAtlas.Rust

open Grammar

/-- The kind and the length of the comment in front. -/
def comment? (cs : List Char) : Option (String × Option Nat) :=
  match cs with
  | '/' :: '/' :: _ => some ("line_comment", lineComment? cs)
  | '/' :: '*' :: _ => some ("block_comment", blockComment? cs)
  | _ => none

theorem length_pos_of_comment? {cs : List Char} {found : String × Option Nat}
    (h : comment? cs = some found) : 0 < cs.length := by
  cases cs with
  | nil => simp [comment?] at h
  | cons c cs => simp

/-- The comments before a token, and the place after them; `none` if a comment has no end. -/
def skipTrivia (c : Cursor) (comments : List (String × Stretch)) :
    Option (List (String × Stretch) × Cursor) :=
  let d := c.advance (runLength Text.isGap c.rest)
  match _h : comment? d.rest with
  | none => some (comments.reverse, d)
  | some (_, none) => none
  | some (kind, some n) =>
    if 0 < n then skipTrivia (d.advance n) ((kind, ⟨d, d.advance n⟩) :: comments) else none
termination_by c.rest.length
decreasing_by
  have hd := length_pos_of_comment? _h
  have hc : d.rest = c.rest.drop (runLength Text.isGap c.rest) := Cursor.rest_advance c _
  rw [Cursor.rest_advance, List.length_drop]
  rw [hc, List.length_drop] at hd ⊢
  omega

/-- The longer of two candidates; the first one if they are equally long. -/
def longer (a b : Option (Token × Nat)) : Option (Token × Nat) :=
  match a, b with
  | some (t, m), some (u, n) => if m < n then some (u, n) else some (t, m)
  | some a, none => some a
  | none, b => b

/-- A candidate of a class that is of use here. -/
def candidate (allowed : Token → Bool) (t : Token) (length? : List Char → Option Nat)
    (cs : List Char) : Option (Token × Nat) :=
  if allowed t then (length? cs).map fun n => (t, n) else none

/-- The longest mark of punctuation. -/
def punctuation? (allowed : Token → Bool) (cs : List Char) : Option (Token × Nat) :=
  [3, 2, 1].findSome? fun n =>
    let t := Token.literal (String.ofList (cs.take n))
    if allowed t then some (t, n) else none

/-- The keyword or identifier. -/
def word? (allowed : Token → Bool) (cs : List Char) : Option (Token × Nat) :=
  (identifier? cs).bind fun n =>
    let t := Token.literal (String.ofList (cs.take n))
    if allowed t then some (t, n)
    else if allowed .identifier then some (.identifier, n)
    else none

/-- The token with which macro definitions start. -/
def macroRules : String := "macro_rules!"

/-- The token in front, without white space before it. -/
def token? (allowed : Token → Bool) (atStart : Bool) (cs : List Char) : Option (Token × Nat) :=
  let raw := if allowed .rawString then rawOpening? cs else none
  let float := candidate allowed .float float? cs
  match raw, float with
  | some (hashes, n), _ =>
    (rawRest? hashes (cs.drop n)).map fun m => (.rawString, n + m)
  | none, some f => some f
  | none, none =>
    if allowed .string && startsString cs then (string? cs).map fun n => (.string, n)
    else if allowed .typeOpen && cs.head? = some '<' then some (.typeOpen, 1)
    else
      let start := if atStart then candidate allowed .shebang shebang? cs else none
      let definition :=
        candidate allowed (.literal macroRules)
          (fun cs => if startsWith cs macroRules then some macroRules.length else none) cs
      [candidate allowed .integer integer? cs, candidate allowed .character character? cs,
        candidate allowed .metavariable metavariable? cs, definition, word? allowed cs,
        punctuation? allowed cs].foldl longer start

/-- The place where reading starts: a byte order mark at the start of a text is passed over. -/
def skipMark (c : Cursor) : Cursor :=
  if c.offset = 0 && c.rest.head? = some (Char.ofNat 0xFEFF) then c.advance 1 else c

/-- The length of what separates repetitions: everything up to the sign that says how often. -/
def separatorLength (allowed : Token → Bool) (cs : List Char) : Nat :=
  if allowed .separator then runLength (fun c => c ≠ '+' && c ≠ '*' && c ≠ '?') cs else 0

/-- Reads the comments and the token in front. -/
def scan (allowed : Token → Bool) (c : Cursor) : Option (Scanned Token) :=
  let c := skipMark c
  let gap := separatorLength allowed c.rest
  if 0 < gap then some ⟨[], some .separator, ⟨c, c.advance gap⟩⟩
  else
    match skipTrivia c [] with
    | none => none
    | some (comments, c) =>
      if c.rest.isEmpty then some ⟨comments, none, ⟨c, c⟩⟩
      else
        (token? allowed (c.offset ≤ 1) c.rest).map fun (t, n) =>
          ⟨comments, some t, ⟨c, c.advance n⟩⟩

end CrateAtlas.Rust
