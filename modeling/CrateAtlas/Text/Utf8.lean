/-!
# Reading UTF-8

`decode` reads a sequence of octets as text.  A sequence that is not UTF-8 is refused with the
octets that are to blame: the longest start of a character that could not be completed.  Surrogates,
overlong forms and numbers beyond the last code point are refused at the octet that rules them out.
-/

set_option autoImplicit false

namespace CrateAtlas.Text

/-- Why a sequence of octets is not UTF-8. -/
inductive Utf8Problem where
  | startOctet
  | continuation
  | endOfData
deriving DecidableEq, Repr

/-- Where a sequence of octets is not UTF-8: the octets from `start` up to `stop` are to blame, and
`first` is the first of them. -/
structure Utf8Fault where
  problem : Utf8Problem
  first : Nat
  start : Nat
  stop : Nat
deriving DecidableEq, Repr

/-- How many octets follow a first octet, and the least and greatest value of the second one. -/
def tailsAfter (b : Nat) : Option (Nat × Nat × Nat) :=
  if b ≤ 0x7F then some (0, 0x80, 0xBF)
  else if b < 0xC2 then none
  else if b ≤ 0xDF then some (1, 0x80, 0xBF)
  else if b = 0xE0 then some (2, 0xA0, 0xBF)
  else if b = 0xED then some (2, 0x80, 0x9F)
  else if b ≤ 0xEF then some (2, 0x80, 0xBF)
  else if b = 0xF0 then some (3, 0x90, 0xBF)
  else if b ≤ 0xF3 then some (3, 0x80, 0xBF)
  else if b = 0xF4 then some (3, 0x80, 0x8F)
  else none

/-- The payload bits of a first octet with the given number of octets after it. -/
def leadBits (b tails : Nat) : Nat :=
  if tails = 0 then b else if tails = 1 then b % 32 else if tails = 2 then b % 16 else b % 8

/-- Reads the octets after the first one of a character.  `owed` is how many are still to come, the
next one has to lie between `least` and `greatest`, `value` holds the bits so far, and `taken` is
the number of octets read.  The result is the character and the rest, or what is wrong and how many
octets are to blame. -/
def tails : Nat → Nat → Nat → Nat → Nat → List Nat →
    Except (Utf8Problem × Nat) (Char × List Nat)
  | 0, _, _, value, _, rest => .ok (Char.ofNat value, rest)
  | _ + 1, _, _, _, taken, [] => .error (.endOfData, taken)
  | owed + 1, least, greatest, value, taken, b :: rest =>
    if least ≤ b ∧ b ≤ greatest then tails owed 0x80 0xBF (value * 64 + b % 64) (taken + 1) rest
    else .error (.continuation, taken)

theorem length_of_tails {owed least greatest value taken : Nat} {bs rest : List Nat} {c : Char}
    (h : tails owed least greatest value taken bs = .ok (c, rest)) : rest.length ≤ bs.length := by
  induction bs generalizing owed least greatest value taken with
  | nil =>
    cases owed with
    | zero => simp [tails] at h; simp [h.2]
    | succ n => simp [tails] at h
  | cons b bs ih =>
    cases owed with
    | zero => simp [tails] at h; simp [← h.2]
    | succ n =>
      rw [tails] at h
      split at h
      · exact Nat.le_succ_of_le (ih h)
      · simp at h

/-- Reads octets as text; `position` is the number of octets before them. -/
def decodeFrom (position : Nat) : List Nat → Except Utf8Fault (List Char)
  | [] => .ok []
  | b :: rest =>
    match tailsAfter b with
    | none => .error ⟨.startOctet, b, position, position + 1⟩
    | some (owed, least, greatest) =>
      match _h : tails owed least greatest (leadBits b owed) 1 rest with
      | .error (problem, taken) => .error ⟨problem, b, position, position + taken⟩
      | .ok (c, after) =>
        match decodeFrom (position + owed + 1) after with
        | .error fault => .error fault
        | .ok cs => .ok (c :: cs)
termination_by bs => bs.length
decreasing_by
  have := length_of_tails _h
  simp only [List.length_cons]
  omega

/-- Reads octets as text. -/
def decode (octets : List Nat) : Except Utf8Fault (List Char) := decodeFrom 0 octets

/-- The words for what is wrong. -/
def Utf8Problem.message : Utf8Problem → String
  | .startOctet => "invalid start byte"
  | .continuation => "invalid continuation byte"
  | .endOfData => "unexpected end of data"

/-- A digit pair of a hexadecimal number. -/
def octetText (b : Nat) : String :=
  let digit (n : Nat) : Char := if n < 10 then Char.ofNat (48 + n) else Char.ofNat (87 + n)
  String.ofList [digit (b / 16 % 16), digit (b % 16)]

/-- The message that reports octets that are not UTF-8. -/
def Utf8Fault.message (f : Utf8Fault) : String :=
  let place :=
    if f.stop = f.start + 1 then
      "byte 0x" ++ octetText f.first ++ " in position " ++ toString f.start
    else "bytes in position " ++ toString f.start ++ "-" ++ toString (f.stop - 1)
  "'utf-8' codec can't decode " ++ place ++ ": " ++ f.problem.message

end CrateAtlas.Text
