import CrateAtlas.Number.Digits
import CrateAtlas.Text.Utf8
import CrateAtlas.Yaml.Place
import CrateAtlas.Yaml.Token

/-!
# Scalars in a YAML text

Reading quoted, plain and block scalars, anchors, tags and directives off a text.  Each function
gives what it has read and the place after it.

* In a **flow scalar** a single line break counts as a space, and of several line breaks the first
  one is dropped.  A double-quoted scalar may hold escapes.
* A **plain scalar** ends before a colon or a comment sign that a blank separates, at an indentation
  that is too small, and, in a flow collection, at the signs of the collection.
* A **block scalar** is indented more deeply than what is around it; what happens to the line breaks
  at its end is said in its header.
-/

set_option autoImplicit false

namespace CrateAtlas.Yaml

/-! ## Flow scalars -/

/-- The line breaks of a flow scalar, from the start of a line on.  A marker between documents may
not stand there. -/
def flowBreaks : Nat → Place → Except Fault (List Char × Place)
  | 0, _ => .error .invalid
  | fuel + 1, p =>
    if p.isSeparator then .error .invalid
    else
      let p := p.skipRun fun c => c = ' ' || c = '\t'
      if isBreak p.peek then do
        let (b, p) := p.lineBreak
        let (bs, p) ← flowBreaks fuel p
        return (b ++ bs, p)
      else .ok ([], p)

/-- The blanks and line breaks inside a flow scalar. -/
def flowSpaces (fuel : Nat) (p : Place) : Except Fault (List Char × Place) :=
  let blanks := p.run fun c => c = ' ' || c = '\t'
  let p := p.skip blanks.length
  if p.peek = finis then .error .invalid
  else if isBreak p.peek then do
    let (b, p) := p.lineBreak
    let (bs, p) ← flowBreaks fuel p
    let lead := if b ≠ ['\n'] then b else if bs.isEmpty then [' '] else []
    return (lead ++ bs, p)
  else .ok (blanks, p)

/-- The character that a backslash and a letter stand for. -/
def escaped? (c : Char) : Option Char :=
  match c with
  | '0' => some finis
  | 'a' => some (Char.ofNat 7)
  | 'b' => some (Char.ofNat 8)
  | 't' => some '\t'
  | '\t' => some '\t'
  | 'n' => some '\n'
  | 'v' => some (Char.ofNat 11)
  | 'f' => some (Char.ofNat 12)
  | 'r' => some '\r'
  | 'e' => some (Char.ofNat 27)
  | ' ' => some ' '
  | '"' => some '"'
  | '\\' => some '\\'
  | '/' => some '/'
  | 'N' => some (Char.ofNat 0x85)
  | '_' => some (Char.ofNat 0xA0)
  | 'L' => some (Char.ofNat 0x2028)
  | 'P' => some (Char.ofNat 0x2029)
  | _ => none

/-- How many hexadecimal digits follow a backslash and a letter. -/
def escapeWidth? (c : Char) : Option Nat :=
  match c with
  | 'x' => some 2
  | 'u' => some 4
  | 'U' => some 8
  | _ => none

/-- An escape, after its backslash. -/
def escape (fuel : Nat) (p : Place) : Except Fault (List Char × Place) :=
  let c := p.peek
  match escaped? c, escapeWidth? c with
  | some x, _ => .ok ([x], p.skip 1)
  | none, some width =>
    let digits := (p.skip 1).take width
    if digits.length = width ∧ digits.all (Digits.isDigit 16) then
      let n := Digits.toNat 16 digits
      if n < 0x110000 then .ok ([Char.ofNat n], p.skip (width + 1))
      else .error (.scalar .noSuchCharacter)
    else .error .invalid
  | none, none =>
    if isBreak c then flowBreaks fuel p.lineBreak.2 else .error .invalid

/-- The rest of a flow scalar, up to its closing quote. -/
def flowScalar (double : Bool) : Nat → Place → Except Fault (List Char × Place)
  | 0, _ => .error .invalid
  | fuel + 1, p =>
    let c := p.peek
    let apostrophe := Text.apostrophe
    if double ∧ c = '"' then .ok ([], p.skip 1)
    else if !double ∧ c = apostrophe ∧ p.ahead 1 = apostrophe then do
      let (cs, p) ← flowScalar double fuel (p.skip 2)
      return (apostrophe :: cs, p)
    else if !double ∧ c = apostrophe then .ok ([], p.skip 1)
    else if double ∧ c = '\\' then do
      let (xs, p) ← escape fuel (p.skip 1)
      let (cs, p) ← flowScalar double fuel p
      return (xs ++ cs, p)
    else if endsToken c then do
      let (xs, p) ← flowSpaces fuel p
      let (cs, p) ← flowScalar double fuel p
      return (xs ++ cs, p)
    else do
      let (cs, p) ← flowScalar double fuel (p.skip 1)
      return (c :: cs, p)

/-! ## Plain scalars -/

/-- Whether a plain scalar goes on with the next character. -/
def continuesPlain (inFlow : Bool) (c next : Char) : Bool :=
  !(endsToken c ||
    (c = ':' && (endsToken next || (inFlow && (",[]\x7b\x7d".toList.contains next)))) ||
    (inFlow && (",?[]\x7b\x7d".toList.contains c)))

/-- The characters of a plain scalar up to the next blank or the end of the scalar. -/
def plainRun (inFlow : Bool) : List Char → List Char
  | [] => []
  | c :: cs => if continuesPlain inFlow c (cs.headD finis) then c :: plainRun inFlow cs else []

/-- The line breaks and indentation between the lines of a plain scalar; `none` at a marker between
documents. -/
def plainBreaks : Nat → Place → Option (List Char) × Place
  | 0, p => (some [], p)
  | fuel + 1, p =>
    if p.isSeparator then (none, p)
    else
      let p := p.skipSpaces
      if isBreak p.peek then
        let (b, p) := p.lineBreak
        match plainBreaks fuel p with
        | (some bs, p) => (some (b ++ bs), p)
        | (none, p) => (none, p)
      else (some [], p)

/-- The blanks and line breaks inside a plain scalar, and whether there were line breaks; nothing if
the scalar ends here. -/
def plainSpaces (fuel : Nat) (p : Place) : Option (List Char) × Bool × Place :=
  let blanks := p.run (· = ' ')
  let p := p.skip blanks.length
  if isBreak p.peek then
    let (b, p) := p.lineBreak
    match plainBreaks fuel p with
    | (none, p) => (none, true, p)
    | (some bs, p) =>
      let lead := if b ≠ ['\n'] then b else if bs.isEmpty then [' '] else []
      (some (lead ++ bs), true, p)
  else if blanks.isEmpty then (none, false, p)
  else (some blanks, false, p)

/-- A plain scalar: its text, the place after it, and whether a line break has followed its last
word.  `indent` is the least column of its further lines. -/
def plainScalar (inFlow : Bool) (indent : Int) : Nat → Place → List Char × Bool × Place
  | 0, p => ([], false, p)
  | fuel + 1, p =>
    if p.peek = '#' then ([], false, p)
    else
      let word := plainRun inFlow p.rest
      if word.isEmpty then ([], false, p)
      else
        match plainSpaces fuel (p.skip word.length) with
        | (none, broken, p) => (word, broken, p)
        | (some spaces, broken, p) =>
          if p.peek = '#' ∨ (!inFlow ∧ (p.column : Int) < indent) then (word, broken, p)
          else
            let (more, brokenLater, p) := plainScalar inFlow indent fuel p
            if more.isEmpty then (word, broken, p)
            else (word ++ spaces ++ more, brokenLater, p)

/-! ## Block scalars -/

/-- What happens to the line breaks at the end of a block scalar. -/
inductive Chomping where
  | strip
  | clip
  | keep
deriving DecidableEq

/-- A sign for the line breaks at the end of a block scalar. -/
def chomping? (c : Char) : Option Chomping :=
  if c = '+' then some .keep else if c = '-' then some .strip else none

/-- An explicit indentation in the header of a block scalar. -/
def indentation? (c : Char) : Option Nat :=
  if '0' ≤ c ∧ c ≤ '9' then some (c.toNat - 48) else none

/-- The header of a block scalar, in which the two signs may stand in either order. -/
def blockHeader (p : Place) : Except Fault ((Chomping × Option Nat) × Place) := do
  let (chomp, p) := match chomping? p.peek with
    | some chomp => (some chomp, p.skip 1)
    | none => (none, p)
  let (width, p) := match indentation? p.peek with
    | some n => (some n, p.skip 1)
    | none => (none, p)
  let (chomp, p) := match chomp, width, chomping? p.peek with
    | none, some _, some chomp => (some chomp, p.skip 1)
    | chomp, _, _ => (chomp, p)
  if width = some 0 ∨ !endsWord p.peek then throw .invalid
  let p := p.skipSpaces
  let p := if p.peek = '#' then p.skipLine else p
  if !endsLine p.peek then throw .invalid
  return ((chomp.getD .clip, width), p.lineBreak.2)

/-- Skips spaces up to a column. -/
def skipTo (indent : Nat) (p : Place) : Place :=
  p.skip (min (p.run (· = ' ')).length (indent - p.column))

/-- The empty lines before a line of a block scalar. -/
def blockBreaks (indent : Nat) : Nat → Place → List (List Char) × Place
  | 0, p => ([], p)
  | fuel + 1, p =>
    let p := skipTo indent p
    if isBreak p.peek then
      let (b, p) := p.lineBreak
      let (bs, p) := blockBreaks indent fuel p
      (b :: bs, p)
    else ([], p)

/-- The empty lines before the first line of a block scalar whose indentation is not said, and the
largest indentation seen. -/
def blockLead : Nat → Place → List (List Char) × Nat × Place
  | 0, p => ([], 0, p)
  | fuel + 1, p =>
    if p.peek = ' ' then
      let q := p.skipSpaces
      let (bs, widest, r) := blockLead fuel q
      (bs, max q.column widest, r)
    else if isBreak p.peek then
      let (b, p) := p.lineBreak
      let (bs, widest, p) := blockLead fuel p
      (b :: bs, widest, p)
    else ([], 0, p)

/-- The lines of a block scalar.  `breaks` are the empty lines before the next line.  The result is
the text up to the end of the last line, the line break after it and the empty lines that follow. -/
def blockLines (folded : Bool) (indent : Nat) :
    Nat → List (List Char) → Place → List Char × List Char × List (List Char) × Place
  | 0, breaks, p => ([], [], breaks, p)
  | fuel + 1, breaks, p =>
    if p.column = indent ∧ p.peek ≠ finis then
      let line := p.run fun c => !endsLine c
      let startsText := p.peek ≠ ' ' && p.peek ≠ '\t'
      let (b, p) := (p.skip line.length).lineBreak
      let (bs, p) := blockBreaks indent fuel p
      if p.column = indent ∧ p.peek ≠ finis then
        let joint :=
          if folded && b = ['\n'] && startsText && p.peek ≠ ' ' && p.peek ≠ '\t' then
            if bs.isEmpty then [' '] else []
          else b
        let (more, final, after, p) := blockLines folded indent fuel bs p
        (breaks.flatten ++ line ++ joint ++ more, final, after, p)
      else (breaks.flatten ++ line, b, bs, p)
    else ([], [], breaks, p)

/-- A block scalar, after the sign that starts it.  `least` is its least indentation. -/
def blockScalar (folded : Bool) (least fuel : Nat) (p : Place) :
    Except Fault (List Char × Place) := do
  let ((chomp, width), p) ← blockHeader p
  let (indent, breaks, p) := match width with
    | some n =>
      let indent := least + n - 1
      let (bs, p) := blockBreaks indent fuel p
      (indent, bs, p)
    | none =>
      let (bs, widest, p) := blockLead fuel p
      (max least widest, bs, p)
  let (text, final, after, p) := blockLines folded indent fuel breaks p
  let ending := match chomp with
    | .strip => []
    | .clip => final
    | .keep => final ++ after.flatten
  return (text ++ ending, p)

/-! ## Anchors, tags and directives -/

/-- The name of an anchor or a reference, after its sign. -/
def anchorName (p : Place) : Except Fault (String × Place) :=
  let name := p.run isNameChar
  let p := p.skip name.length
  if name.isEmpty || !(endsToken p.peek || "?:,]\x7d%@\x60".toList.contains p.peek) then
    .error .invalid
  else .ok (String.ofList name, p)

/-- Whether a character may stand in a tag. -/
def isTagChar (c : Char) : Bool :=
  isNameChar c || ";/?:@&=+$,.!~*()[]%".toList.contains c || c = Text.apostrophe

/-- The octets of percent escapes. -/
def percentOctets : Nat → List Char → Option (List Nat × List Char)
  | 0, cs => some ([], cs)
  | fuel + 1, '%' :: cs =>
    match cs with
    | a :: b :: rest =>
      if Digits.isDigit 16 a && Digits.isDigit 16 b then
        (percentOctets fuel rest).map fun (octets, rest) =>
          (Digits.toNat 16 [a, b] :: octets, rest)
      else none
    | _ => none
  | _ + 1, cs => some ([], cs)

/-- The text of a tag in which percent escapes are resolved. -/
def unescapeTag : Nat → List Char → Option (List Char)
  | 0, _ => some []
  | fuel + 1, cs =>
    match cs with
    | [] => some []
    | '%' :: _ => do
      let (octets, rest) ← percentOctets cs.length cs
      match Text.decode octets with
      | .ok xs => return xs ++ (← unescapeTag fuel rest)
      | .error _ => none
    | c :: rest => (unescapeTag fuel rest).map (c :: ·)

/-- The text of a tag. -/
def tagText (p : Place) : Except Fault (String × Place) :=
  let text := p.run isTagChar
  if text.isEmpty then .error .invalid
  else
    match unescapeTag (text.length + 1) text with
    | some cs => .ok (String.ofList cs, p.skip text.length)
    | none => .error .invalid

/-- The short form at the start of a tag: one exclamation mark, or a name between two. -/
def tagHandle (p : Place) : Except Fault (String × Place) :=
  if p.peek ≠ '!' then .error .invalid
  else if p.ahead 1 = ' ' then .ok ("!", p.skip 1)
  else
    let name := (p.skip 1).run isNameChar
    if p.ahead (name.length + 1) ≠ '!' then .error .invalid
    else .ok (String.ofList ('!' :: name ++ ['!']), p.skip (name.length + 2))

/-- A tag. -/
def tagToken (p : Place) : Except Fault (Token × Place) := do
  let (token, p) ←
    if p.ahead 1 = '<' then do
      let (text, p) ← tagText (p.skip 2)
      if p.peek ≠ '>' then throw .invalid
      pure (Token.tag none text, p.skip 1)
    else if endsToken (p.ahead 1) then pure (Token.tag none "!", p.skip 1)
    else do
      let word := (p.skip 1).run fun c => !endsWord c
      let (handle, p) ← if word.contains '!' then tagHandle p else pure ("!", p.skip 1)
      let (text, p) ← tagText p
      pure (Token.tag (some handle) text, p)
  if endsWord p.peek then return (token, p) else throw .invalid

/-- A number in the version of a document. -/
def versionNumber (p : Place) : Except Fault (Nat × Place) :=
  let digits := p.run (Digits.isDigit 10)
  if digits.isEmpty then .error .invalid
  else if Digits.limit < digits.length then .error (.scalar (.tooManyDigits digits.length))
  else .ok (Digits.toNat 10 digits, p.skip digits.length)

/-- A directive, after its percent sign. -/
def directive (p : Place) : Except Fault (Token × Place) := do
  let name := p.run isNameChar
  let p := p.skip name.length
  if name.isEmpty || !endsWord p.peek then throw .invalid
  let (token, p) ←
    if name = "YAML".toList then do
      let (major, p) ← versionNumber p.skipSpaces
      if p.peek ≠ '.' then throw .invalid
      let (_, p) ← versionNumber (p.skip 1)
      if !endsWord p.peek then throw .invalid
      pure (Token.version major, p)
    else if name = "TAG".toList then do
      let (handle, p) ← tagHandle p.skipSpaces
      if p.peek ≠ ' ' then throw .invalid
      let (text, p) ← tagText p.skipSpaces
      if !endsWord p.peek then throw .invalid
      pure (Token.tagDirective handle text, p)
    else pure (Token.directive, p.skipLine)
  let p := p.skipSpaces
  let p := if p.peek = '#' then p.skipLine else p
  if !endsLine p.peek then throw .invalid
  return (token, p.lineBreak.2)

end CrateAtlas.Yaml
