import CrateAtlas.Items

/-!
# String literals

A `path` attribute names a file by a string literal, and the text of the literal is turned into the
name of the file.  `Literal.quoted` and `Literal.raw` go the other way: they are the two forms in
which any text can be written as a literal.

The value of an ordinary literal is found by two replacements, one after the other, each over the
whole text.  Nothing is confused by that.  **In an escaped text no quote comes first**
(`head?_escape_ne_quote`), so a backslash that is itself escaped is never taken for the mark of a
quote after it.  The first replacement therefore leaves a text in which the backslashes, and nothing
else, are doubled (`unescapeQuotes_escape`), and the second one halves them.

In a raw literal the hash signs are taken off both ends, however many there are.  The quotes keep
those that belong to the text.
-/

set_option autoImplicit false

namespace CrateAtlas

namespace Literal

/-! ## Ordinary literals -/

/-- A character in an ordinary literal: quotes and backslashes have a backslash before them. -/
def escapeChar (c : Char) : List Char := if c = '\\' ∨ c = '"' then ['\\', c] else [c]

/-- The characters between the quotes of an ordinary literal. -/
def escape (cs : List Char) : List Char := cs.flatMap escapeChar

/-- The ordinary literal of a text. -/
def quoted (s : String) : String := String.ofList ('"' :: escape s.toList ++ ['"'])

/-- Doubles every backslash. -/
def doubleBackslashes (cs : List Char) : List Char :=
  cs.flatMap fun c => if c = '\\' then ['\\', '\\'] else [c]

theorem escape_cons_backslash (cs : List Char) :
    escape ('\\' :: cs) = '\\' :: '\\' :: escape cs := rfl

theorem escape_cons_quote (cs : List Char) : escape ('"' :: cs) = '\\' :: '"' :: escape cs := rfl

theorem escape_cons_other {c : Char} (hb : c ≠ '\\') (hq : c ≠ '"') (cs : List Char) :
    escape (c :: cs) = c :: escape cs := by
  simp [escape, escapeChar, hb, hq]

theorem head?_escape_ne_quote (cs : List Char) : (escape cs).head? ≠ some '"' := by
  cases cs with
  | nil => simp [escape]
  | cons c cs =>
    by_cases hb : c = '\\'
    · simp [hb, escape_cons_backslash]
    · by_cases hq : c = '"'
      · simp [hq, escape_cons_quote]
      · simp [escape_cons_other hb hq, hq]

/-- A backslash that no quote follows stays. -/
theorem unescapeQuotes_backslash {cs : List Char} (h : cs.head? ≠ some '"') :
    unescapeQuotes ('\\' :: cs) = '\\' :: unescapeQuotes cs := by
  refine unescapeQuotes.eq_3 _ _ fun rest _ hcs => h ?_
  rw [hcs, List.head?_cons]

theorem unescapeQuotes_other {c : Char} (hc : c ≠ '\\') (cs : List Char) :
    unescapeQuotes (c :: cs) = c :: unescapeQuotes cs :=
  unescapeQuotes.eq_3 _ _ fun _ hb _ => hc hb

/-- **The first replacement** undoes what was done to the quotes. -/
theorem unescapeQuotes_escape (cs : List Char) :
    unescapeQuotes (escape cs) = doubleBackslashes cs := by
  induction cs with
  | nil => rfl
  | cons c cs ih =>
    by_cases hb : c = '\\'
    · subst hb
      rw [escape_cons_backslash, unescapeQuotes_backslash (by simp),
        unescapeQuotes_backslash (head?_escape_ne_quote cs), ih]
      rfl
    · by_cases hq : c = '"'
      · subst hq
        rw [escape_cons_quote, unescapeQuotes, ih]
        rfl
      · rw [escape_cons_other hb hq, unescapeQuotes_other hb, ih]
        simp [doubleBackslashes, hb]

/-- **The second replacement** undoes what was done to the backslashes. -/
theorem unescapeBackslashes_doubleBackslashes (cs : List Char) :
    unescapeBackslashes (doubleBackslashes cs) = cs := by
  induction cs with
  | nil => rfl
  | cons c cs ih =>
    by_cases hb : c = '\\'
    · subst hb
      show unescapeBackslashes ('\\' :: '\\' :: doubleBackslashes cs) = '\\' :: cs
      rw [unescapeBackslashes, ih]
    · have hdouble : doubleBackslashes (c :: cs) = c :: doubleBackslashes cs := by
        simp [doubleBackslashes, hb]
      rw [hdouble, unescapeBackslashes.eq_3 _ _ fun _ hc _ => hb hc, ih]

theorem dropEnds_between (first last : Char) (cs : List Char) :
    dropEnds (first :: cs ++ [last]) = cs := by
  simp [dropEnds]

theorem stringValue_quoted (s : String) : stringValue (quoted s) = s := by
  rw [stringValue, quoted, String.toList_ofList, dropEnds_between, unescapeQuotes_escape,
    unescapeBackslashes_doubleBackslashes, String.ofList_toList]

/-! ## Raw literals -/

/-- The raw literal of a text, with a number of hash signs around it. -/
def raw (hashes : Nat) (s : String) : String :=
  String.ofList ('r' :: (List.replicate hashes '#' ++ ('"' :: s.toList ++ ['"']) ++
    List.replicate hashes '#'))

theorem dropWhile_hashes (n : Nat) (cs : List Char) :
    (List.replicate n '#' ++ '"' :: cs).dropWhile (· = '#') = '"' :: cs := by
  induction n with
  | zero => rfl
  | succ n ih =>
    rw [List.replicate_succ, List.cons_append, List.dropWhile_cons_of_pos (by simp), ih]

/-- The hash signs around quotes are dropped, and none between them. -/
theorem dropHashes_around (m n : Nat) (cs : List Char) :
    dropHashes (List.replicate m '#' ++ ('"' :: cs ++ ['"']) ++ List.replicate n '#')
      = '"' :: cs ++ ['"'] := by
  have hfront : (List.replicate m '#' ++ ('"' :: cs ++ ['"']) ++ List.replicate n '#').dropWhile
      (· = '#') = '"' :: cs ++ ['"'] ++ List.replicate n '#' := by
    rw [List.append_assoc]
    exact dropWhile_hashes m _
  have hback : ('"' :: cs ++ ['"'] ++ List.replicate n '#').reverse
      = List.replicate n '#' ++ '"' :: (cs.reverse ++ ['"']) := by
    simp
  rw [dropHashes, hfront, hback, dropWhile_hashes]
  simp

theorem rawStringValue_raw (hashes : Nat) (s : String) : rawStringValue (raw hashes s) = s := by
  rw [rawStringValue, raw, String.toList_ofList, List.drop_one, List.tail_cons, dropHashes_around,
    dropEnds_between, String.ofList_toList]

end Literal

/-! ## Literals in attributes -/

namespace Node

/-- The node is a literal of the text, in one of the two forms. -/
inductive Spells (n : Node) (s : String) : Prop
  | quoted (hkind : n.kind = "string_literal") (htext : n.contents = Literal.quoted s)
  | raw (hashes : Nat) (hkind : n.kind = "raw_string_literal")
      (htext : n.contents = Literal.raw hashes s)

theorem Spells.literalValue_eq {n : Node} {s : String} (h : n.Spells s) : n.literalValue = s := by
  cases h with
  | quoted hkind htext =>
    rw [literalValue, if_neg (by simp [hkind]), htext, Literal.stringValue_quoted]
  | raw hashes hkind htext =>
    rw [literalValue, if_pos hkind, htext, Literal.rawStringValue_raw]

theorem Spells.isLiteral {n : Node} {s : String} (h : n.Spells s) :
    n.kind = "string_literal" ∨ n.kind = "raw_string_literal" := by
  cases h with
  | quoted hkind => exact .inl hkind
  | raw _ hkind => exact .inr hkind

/-- The node is an attribute `path = ...` with the given value. -/
structure IsPathAttribute (attr value : Node) : Prop where
  kind : attr.kind = "attribute"
  name : ∃ name rest, attr.namedChildren = name :: rest ∧ name.kind = "identifier" ∧
    name.contents = "path"
  value : attr.child? "value" = some value

theorem IsPathAttribute.pathValue?_eq {attr value : Node} {s : String}
    (h : attr.IsPathAttribute value) (hs : value.Spells s) : attr.pathValue? = some s := by
  obtain ⟨name, rest, hchildren, hname⟩ := h.name
  rw [pathValue?, if_neg (not_not_intro h.kind), hchildren]
  simp only [if_pos hname, h.value, if_pos hs.isLiteral, hs.literalValue_eq]

/-- **String literals are read faithfully.**  The value of an ordinary literal is the text whose
quotes and backslashes were escaped in it, and the value of a raw literal is the text between its
quotes, however many hash signs stand around them.  This text is what an attribute item names if its
first `path` attribute has such a literal. -/
theorem literals_read_faithfully {n : Node} {s : String} (h : n.Spells s) :
    n.literalValue = s ∧
      ∀ (item attr : Node) (before after : List Node),
        item.namedChildren = before ++ attr :: after → (∀ other ∈ before, other.pathValue? = none) →
        attr.IsPathAttribute n → item.overrideIn? = some s := by
  refine ⟨h.literalValue_eq, fun item attr before after hitem hbefore hattr => ?_⟩
  rw [overrideIn?, hitem, List.findSome?_append, List.findSome?_eq_none_iff.2 hbefore,
    List.findSome?_cons, hattr.pathValue?_eq h]
  rfl

namespace Sample

/-- A text of quotes and backslashes in a row, between hash signs. -/
def awkward : String := "#\\\"\\\\\"#"

/-- A leaf with the given text, as the value of an attribute. -/
def valueNode (kind text : String) : Node :=
  ⟨kind, some text, true, false, false, ⟨0, 0⟩, some "value", []⟩

/-- The text as an ordinary literal. -/
def quotedNode : Node := valueNode "string_literal" "\"#\\\\\\\"\\\\\\\\\\\"#\""

/-- The text as a raw literal. -/
def rawNode : Node := valueNode "raw_string_literal" "r##\"#\\\"\\\\\"#\"##"

/-- The attribute item `#[path = ...]` with the given value. -/
def pathItem (value : Node) : Node :=
  ⟨"attribute_item", none, true, false, false, ⟨0, 0⟩, none,
    [⟨"attribute", none, true, false, false, ⟨0, 0⟩, none,
      [⟨"identifier", some "path", true, false, false, ⟨0, 0⟩, none, []⟩, value]⟩]⟩

end Sample

/-- Quotes after escaped backslashes, and hash signs next to the quotes, are read as they were
written, in both forms. -/
theorem awkward_text_read :
    Sample.quotedNode.Spells Sample.awkward ∧ Sample.rawNode.Spells Sample.awkward ∧
      Sample.rawNode.literalValue = Sample.awkward ∧
      (Sample.pathItem Sample.quotedNode).overrideIn? = some Sample.awkward := by
  have hquoted : Sample.quotedNode.Spells Sample.awkward := .quoted rfl (by decide)
  have hraw : Sample.rawNode.Spells Sample.awkward := .raw 2 rfl (by decide)
  refine ⟨hquoted, hraw, (literals_read_faithfully hraw).1, ?_⟩
  exact (literals_read_faithfully hquoted).2 _ _ [] [] rfl (by simp)
    ⟨rfl, ⟨_, _, rfl, rfl, rfl⟩, rfl⟩

end Node

end CrateAtlas
