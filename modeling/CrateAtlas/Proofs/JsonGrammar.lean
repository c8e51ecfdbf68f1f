import Mathlib.Data.List.TakeDrop
import CrateAtlas.Json.Read

/-!
# The grammar of JSON

Which texts are JSON, and which value each of them stands for: `Json.ValueText` and
`Json.DocumentText` are the grammar of the standard, with white space around every token, all short
escapes, `\u` escapes in either case, surrogate pairs, and numbers with fraction and exponent.  The
grammar knows nothing of how this library reads or writes.

**Every document of the grammar is read as its value** (`Json.read?_of_text`), so that no text
stands for two values (`Json.DocumentText.unique`).  The reader takes as much as it can, so each
lemma on the way says what may follow: after a value that is the end, white space, a comma or a
closing bracket (`Json.Stops`), none of which continues a number.  The fuel of the reader is the
length of the text, and every step of it uses up a character.
-/

set_option autoImplicit false

namespace CrateAtlas.Json

/-! ## The grammar -/

/-- White space. -/
def Blank (cs : List Char) : Prop := ∀ c ∈ cs, isSpace c = true

/-- The character is a hexadecimal digit, in lower or upper case, with the given value. -/
def IsHex (c : Char) (n : Nat) : Prop :=
  "0123456789abcdef".toList[n]? = some c ∨ "0123456789ABCDEF".toList[n]? = some c

/-- Four hexadecimal digits are the 16-bit unit with the given value. -/
inductive UnitText : List Char → Nat → Prop
  | mk {a b c d : Char} {i j k l : Nat} (ha : IsHex a i) (hb : IsHex b j) (hc : IsHex c k)
      (hd : IsHex d l) : UnitText [a, b, c, d] (i * 4096 + j * 256 + k * 16 + l)

/-- The letters of the short escapes, and the characters that they stand for. -/
def shortEscapes : List (Char × Char) :=
  [('"', '"'), ('\\', '\\'), ('/', '/'), ('b', Char.ofNat 8), ('f', Char.ofNat 12), ('n', '\n'),
    ('r', '\r'), ('t', '\t')]

/-- The ways to write one character inside quotes. -/
inductive CharText : List Char → Char → Prop
  | plain {c : Char} (hc : 32 ≤ c.toNat) (hq : c ≠ '"') (hb : c ≠ '\\') : CharText [c] c
  | short {e c : Char} (h : (e, c) ∈ shortEscapes) : CharText ['\\', e] c
  | unit {ds : List Char} {u : Nat} (h : UnitText ds u) (hu : u < 55296 ∨ 57344 ≤ u) :
      CharText ('\\' :: 'u' :: ds) (Char.ofNat u)
  | pair {ds ds' : List Char} {u v : Nat} (h : UnitText ds u) (h' : UnitText ds' v)
      (hu : 55296 ≤ u ∧ u < 56320) (hv : 56320 ≤ v ∧ v < 57344) :
      CharText ('\\' :: 'u' :: (ds ++ '\\' :: 'u' :: ds'))
        (Char.ofNat (65536 + (u - 55296) * 1024 + (v - 56320)))

/-- The characters between quotes. -/
inductive BodyText : List Char → List Char → Prop
  | nil : BodyText [] []
  | cons {cs rest s : List Char} {c : Char} (hc : CharText cs c) (hs : BodyText rest s) :
      BodyText (cs ++ rest) (c :: s)

/-- A string between quotes. -/
inductive StringText : List Char → String → Prop
  | mk {cs s : List Char} (h : BodyText cs s) :
      StringText ('"' :: (cs ++ ['"'])) (String.ofList s)

/-- A run of digits. -/
def DigitsText (cs : List Char) : Prop := cs ≠ [] ∧ ∀ c ∈ cs, c.isDigit = true

/-- The whole part of a number, without leading zeros. -/
inductive WholeText : List Char → Prop
  | zero : WholeText ['0']
  | more {c : Char} {cs : List Char} (hc : c ≠ '0') (h : DigitsText (c :: cs)) :
      WholeText (c :: cs)

/-- The fraction of a number. -/
inductive FractionText : List Char → Prop
  | absent : FractionText []
  | present {cs : List Char} (h : DigitsText cs) : FractionText ('.' :: cs)

/-- The exponent of a number. -/
inductive ExponentText : List Char → Prop
  | absent : ExponentText []
  | present {e : Char} {sign cs : List Char} (he : e = 'e' ∨ e = 'E')
      (hs : sign = [] ∨ sign = ['+'] ∨ sign = ['-']) (h : DigitsText cs) :
      ExponentText (e :: (sign ++ cs))

/-- A number. -/
inductive NumberText : List Char → Prop
  | mk {sign whole fraction exponent : List Char} (hs : sign = [] ∨ sign = ['-'])
      (hw : WholeText whole) (hf : FractionText fraction) (he : ExponentText exponent) :
      NumberText (sign ++ (whole ++ (fraction ++ exponent)))

/-- An item of an array: a value with white space around it. -/
structure Item where
  before : List Char
  text : List Char
  after : List Char
  value : Json

/-- The text of an item. -/
def Item.chars (x : Item) : List Char := x.before ++ (x.text ++ x.after)

/-- What is around an item is white space. -/
def Item.Padded (x : Item) : Prop := Blank x.before ∧ Blank x.after

/-- A member of an object: a name with white space around it, and an item. -/
structure Member where
  before : List Char
  label : List Char
  after : List Char
  name : String
  item : Item

/-- The text of a member. -/
def Member.chars (m : Member) : List Char :=
  m.before ++ (m.label ++ (m.after ++ ':' :: m.item.chars))

/-- What is around a name and a value is white space, and the name is written as a string. -/
def Member.Padded (m : Member) : Prop :=
  Blank m.before ∧ Blank m.after ∧ m.item.Padded ∧ StringText m.label m.name

/-- Texts with a comma between them. -/
def separated (texts : List (List Char)) : List Char := [','].intercalate texts

/-- **The grammar of values.** -/
inductive ValueText : List Char → Json → Prop
  | null : ValueText ['n', 'u', 'l', 'l'] .null
  | true : ValueText ['t', 'r', 'u', 'e'] (.bool true)
  | false : ValueText ['f', 'a', 'l', 's', 'e'] (.bool false)
  | number {cs : List Char} (h : NumberText cs) : ValueText cs (.number (String.ofList cs))
  | string {cs : List Char} {s : String} (h : StringText cs s) : ValueText cs (.string s)
  | noItems {w : List Char} (h : Blank w) : ValueText ('[' :: (w ++ [']'])) (.array [])
  | items {xs : List Item} (hne : xs ≠ []) (hp : ∀ x ∈ xs, x.Padded)
      (hv : ∀ x ∈ xs, ValueText x.text x.value) :
      ValueText ('[' :: (separated (xs.map Item.chars) ++ [']'])) (.array (xs.map Item.value))
  | noMembers {w : List Char} (h : Blank w) : ValueText ('{' :: (w ++ ['}'])) (.object [])
  | members {ms : List Member} (hne : ms ≠ []) (hp : ∀ m ∈ ms, m.Padded)
      (hv : ∀ m ∈ ms, ValueText m.item.text m.item.value) :
      ValueText ('{' :: (separated (ms.map Member.chars) ++ ['}']))
        (.object (ms.map fun m => (m.name, m.item.value)))

/-- A document: a value with white space around it. -/
inductive DocumentText : List Char → Json → Prop
  | mk {before cs after : List Char} {v : Json} (hb : Blank before) (hv : ValueText cs v)
      (ha : Blank after) : DocumentText (before ++ (cs ++ after)) v

/-! ## Reading strings -/

theorem hexValue?_of_isHex {c : Char} {n : Nat} (h : IsHex c n) : hexValue? c = some n := by
  have hall : ∀ digits ∈ ["0123456789abcdef", "0123456789ABCDEF"], ∀ n < 16,
      digits.toList[n]?.bind hexValue? = some n := by decide
  have hlt : ∀ digits ∈ ["0123456789abcdef", "0123456789ABCDEF"], digits.toList.length = 16 := by
    decide
  have hread : ∀ digits ∈ ["0123456789abcdef", "0123456789ABCDEF"],
      digits.toList[n]? = some c → hexValue? c = some n := by
    intro digits hd hc
    obtain ⟨hn, -⟩ := List.getElem?_eq_some_iff.1 hc
    have hvalue := hall digits hd n (hlt digits hd ▸ hn)
    rwa [hc] at hvalue
  rcases h with h | h
  · exact hread _ (by simp) h
  · exact hread _ (by simp) h

theorem unit?_of_text {ds : List Char} {u : Nat} (h : UnitText ds u) (rest : List Char) :
    unit? (ds ++ rest) = some (u, rest) := by
  cases h with
  | mk ha hb hc hd =>
    simp [unit?, hexValue?_of_isHex ha, hexValue?_of_isHex hb, hexValue?_of_isHex hc,
      hexValue?_of_isHex hd]

theorem shortEscape?_of_mem {e c : Char} (h : (e, c) ∈ shortEscapes) :
    shortEscape? e = some c ∧ e ≠ 'u' := by
  have hall : ∀ x ∈ shortEscapes, shortEscape? x.1 = some x.2 ∧ x.1 ≠ 'u' := by decide
  exact hall _ h

/-- One character is read as it is written. -/
theorem stringBody?_of_charText {cs : List Char} {c : Char} (h : CharText cs c) (n : Nat)
    (rest : List Char) :
    stringBody? (n + 1) (cs ++ rest) = (stringBody? n rest).map fun r => (c :: r.1, r.2) := by
  cases h with
  | plain hc hq hb =>
    have hlt : ¬c.toNat < 32 := by omega
    rw [List.cons_append, List.nil_append, stringBody?]
    · cases hr : stringBody? n rest <;> simp [hb, hlt]
    · exact hq
    · exact fun _ hc => absurd hc hb
    · exact fun _ _ hc => absurd hc hb
  | short h =>
    obtain ⟨hs, hu⟩ := shortEscape?_of_mem h
    rw [List.cons_append, List.cons_append, List.nil_append, stringBody?]
    · cases hr : stringBody? n rest <;> simp [hs]
    · exact hu
  | @unit ds u h hu =>
    have hchar : unitChar? u rest = some (Char.ofNat u, rest) := by
      unfold unitChar?
      rw [if_neg (by omega)]
    rw [List.cons_append, List.cons_append, stringBody?]
    cases hr : stringBody? n rest <;> simp [unit?_of_text h, hchar, hr]
  | @pair ds ds' u v h h' hu hv =>
    have hchar : unitChar? u ('\\' :: 'u' :: (ds' ++ rest))
        = some (Char.ofNat (65536 + (u - 55296) * 1024 + (v - 56320)), rest) := by
      simp [unitChar?, hu, hv, unit?_of_text h']
    rw [List.cons_append, List.cons_append, List.append_assoc, List.cons_append, List.cons_append,
      stringBody?]
    cases hr : stringBody? n rest <;> simp [unit?_of_text h, hchar, hr]

theorem length_pos_of_charText {cs : List Char} {c : Char} (h : CharText cs c) :
    0 < cs.length := by
  cases h <;> simp

theorem stringBody?_of_text {cs s : List Char} (h : BodyText cs s) {n : Nat} (hn : cs.length < n)
    (rest : List Char) : stringBody? n (cs ++ '"' :: rest) = some (s, rest) := by
  induction h generalizing n with
  | nil =>
    obtain ⟨n, rfl⟩ : ∃ m, n = m + 1 := ⟨n - 1, by omega⟩
    rw [List.nil_append, stringBody?]
  | @cons cs tail s c hc _ ih =>
    obtain ⟨n, rfl⟩ : ∃ m, n = m + 1 := ⟨n - 1, by omega⟩
    have hpos := length_pos_of_charText hc
    rw [List.length_append] at hn
    rw [List.append_assoc, stringBody?_of_charText hc, ih (by omega)]
    rfl

/-- What comes after the first quote of a string is read whole. -/
theorem readString_of_text {cs : List Char} {s : String} (h : StringText cs s)
    (rest : List Char) :
    ∃ body, cs ++ rest = '"' :: body ∧ ∃ t, s = String.ofList t ∧
      stringBody? (body.length + 1) body = some (t, rest) := by
  cases h with
  | @mk body t h =>
    refine ⟨body ++ '"' :: rest, by simp, t, rfl, stringBody?_of_text h ?_ rest⟩
    simp only [List.length_append]
    omega

/-! ## Reading numbers -/

/-- What comes after a value: the end of the text, white space, a comma or a closing bracket. -/
def Stops (rest : List Char) : Prop :=
  ∀ c ∈ rest.head?, isSpace c = true ∨ c = ',' ∨ c = ']' ∨ c = '}'

/-- Nothing of that continues a number. -/
theorem Stops.head_ne {rest : List Char} (h : Stops rest) {c : Char} (hc : c ∈ rest.head?) :
    c.isDigit = false ∧ c ≠ '.' ∧ c ≠ 'e' ∧ c ≠ 'E' := by
  have hstop := h c hc
  simp only [isSpace, Bool.or_eq_true, decide_eq_true_eq] at hstop
  rcases hstop with (((rfl | rfl) | rfl) | rfl) | rfl | rfl | rfl <;> decide

theorem digits?_of_text {ds rest : List Char} (h : DigitsText ds)
    (hr : ∀ c ∈ rest.head?, c.isDigit = false) : digits? (ds ++ rest) = some (ds, rest) := by
  have hrest : rest.takeWhile Char.isDigit = [] ∧ rest.dropWhile Char.isDigit = rest := by
    cases rest with
    | nil => exact ⟨rfl, rfl⟩
    | cons c rest => simp [hr c rfl]
  have hspan : (ds ++ rest).span Char.isDigit = (ds, rest) := by
    rw [List.span_eq_takeWhile_dropWhile, List.takeWhile_append_of_pos h.2,
      List.dropWhile_append_of_pos h.2, hrest.1, hrest.2, List.append_nil]
  rw [digits?, hspan]
  obtain ⟨d, ds, rfl⟩ := List.exists_cons_of_ne_nil h.1
  rfl

theorem exponent?_of_text {cs rest : List Char} (h : ExponentText cs) (hr : Stops rest) :
    exponent? (cs ++ rest) = some (cs, rest) := by
  have hdigit : ∀ c ∈ rest.head?, c.isDigit = false := fun c hc => (hr.head_ne hc).1
  cases h with
  | absent =>
    cases rest with
    | nil => rfl
    | cons c rest =>
      obtain ⟨-, -, he, hE⟩ := hr.head_ne (c := c) rfl
      simp [exponent?, he, hE]
  | @present e sign ds he hs h =>
    have hds := digits?_of_text h hdigit
    rcases hs with rfl | rfl | rfl
    · -- Without a sign, the first character is a digit, and so is not taken for one.
      obtain ⟨d, ds, rfl⟩ := List.exists_cons_of_ne_nil h.1
      have hd : d.isDigit = true := h.2 d List.mem_cons_self
      have hsign : ¬(d = '+' ∨ d = '-') := by
        rintro (rfl | rfl) <;> simp at hd
      rw [List.cons_append] at hds
      simp [exponent?, he, hsign, hds]
    · simp [exponent?, he, hds]
    · simp [exponent?, he, hds]

theorem fraction?_of_text {cs rest : List Char} (h : FractionText cs)
    (hr : ∀ c ∈ rest.head?, c.isDigit = false ∧ c ≠ '.') :
    fraction? (cs ++ rest) = some (cs, rest) := by
  cases h with
  | absent =>
    cases rest with
    | nil => rfl
    | cons c rest =>
      rw [List.nil_append, fraction?]
      exact fun _ hc => absurd (List.cons.inj hc).1 (hr c rfl).2
  | @present ds h =>
    rw [List.cons_append, fraction?, digits?_of_text h fun c hc => (hr c hc).1]
    rfl

theorem digitsText_of_whole {cs : List Char} (h : WholeText cs) : DigitsText cs := by
  cases h with
  | zero => exact ⟨List.cons_ne_nil _ _, by simp⟩
  | more _ h => exact h

/-- A number is read as it is spelled. -/
theorem number?_of_text {cs rest : List Char} (h : NumberText cs) (hr : Stops rest) :
    number? (cs ++ rest) = some (.number (String.ofList cs), rest) := by
  cases h with
  | @mk sign whole fraction exponent hs hw hf he =>
    have hexponent := exponent?_of_text he hr
    have hafter : ∀ c ∈ (exponent ++ rest).head?, c.isDigit = false ∧ c ≠ '.' := by
      cases he with
      | absent => exact fun c hc => ⟨(hr.head_ne hc).1, (hr.head_ne hc).2.1⟩
      | present he _ _ => rcases he with rfl | rfl <;> simp
    have hfraction := fraction?_of_text hf hafter
    have hdot : ∀ c ∈ (fraction ++ (exponent ++ rest)).head?, c.isDigit = false := by
      cases hf with
      | absent => exact fun c hc => (hafter c hc).1
      | present _ => simp
    have hwhole := digits?_of_text (digitsText_of_whole hw) hdot
    rcases hs with rfl | rfl
    · -- A whole part does not start with a sign.
      obtain ⟨d, ds, rfl⟩ := List.exists_cons_of_ne_nil (digitsText_of_whole hw).1
      have hd : d ≠ '-' := by
        rintro rfl
        have := (digitsText_of_whole hw).2 '-' List.mem_cons_self
        simp at this
      rw [List.cons_append] at hwhole
      simp only [number?, List.nil_append, List.cons_append, List.append_assoc]
      simp [hd, hwhole, hfraction, hexponent, String.append_assoc]
    · simp [number?, hwhole, hfraction, hexponent]

/-! ## Reading values -/

theorem skipSpace_append {w : List Char} (h : Blank w) (rest : List Char) :
    skipSpace (w ++ rest) = skipSpace rest :=
  List.dropWhile_append_of_pos h

theorem skipSpace_cons {c : Char} (h : isSpace c = false) (rest : List Char) :
    skipSpace (c :: rest) = c :: rest := by
  rw [skipSpace, List.dropWhile_cons_of_neg (by simp [h])]

theorem Stops.blank_append {w tail : List Char} (hw : Blank w) (ht : Stops tail) :
    Stops (w ++ tail) := by
  cases w with
  | nil => exact ht
  | cons c w =>
    intro d hd
    obtain rfl : c = d := by simpa using hd
    exact .inl (hw c List.mem_cons_self)

/-- A character that a value can start with. -/
def Start (c : Char) : Prop := c ∈ ['-', '"', '[', '{', 'n', 't', 'f'] ∨ c.isDigit = true

theorem Start.ne_space {c : Char} (h : Start c) : isSpace c = false ∧ c ≠ ']' := by
  rcases h with h | h
  · have hall : ∀ c ∈ ['-', '"', '[', '{', 'n', 't', 'f'],
        isSpace c = false ∧ c ≠ ']' := by simp [isSpace]
    exact hall c h
  · have hne : ∀ d : Char, d.isDigit = false → c ≠ d := by
      rintro d hd rfl
      simp [hd] at h
    refine ⟨?_, hne _ rfl⟩
    simp [isSpace, hne ' ' rfl, hne '\n' rfl, hne '\r' rfl, hne '\t' rfl]

theorem NumberText.start {cs : List Char} (h : NumberText cs) :
    ∃ c tail, cs = c :: tail ∧ (c = '-' ∨ c.isDigit = true) := by
  cases h with
  | @mk sign whole fraction exponent hs hw =>
    rcases hs with rfl | rfl
    · have hd := digitsText_of_whole hw
      obtain ⟨d, ds, rfl⟩ := List.exists_cons_of_ne_nil hd.1
      exact ⟨d, _, rfl, .inr (hd.2 d List.mem_cons_self)⟩
    · exact ⟨'-', _, rfl, .inl rfl⟩

theorem ValueText.start {cs : List Char} {v : Json} (h : ValueText cs v) :
    ∃ c tail, cs = c :: tail ∧ Start c := by
  cases h with
  | number h =>
    obtain ⟨c, tail, rfl, rfl | hd⟩ := h.start
    · exact ⟨_, tail, rfl, .inl (by simp)⟩
    · exact ⟨c, tail, rfl, .inr hd⟩
  | string h =>
    cases h
    exact ⟨_, _, rfl, .inl (by simp)⟩
  | _ => exact ⟨_, _, rfl, .inl (by simp)⟩

/-- The text starts like a value, and it is read as the given one, whatever stops it, with as much
fuel as it is long. -/
def Reads (text : List Char) (v : Json) : Prop :=
  (∃ c tail, text = c :: tail ∧ Start c) ∧
    ∀ {n : Nat} {rest : List Char}, text.length ≤ n + 1 → Stops rest →
      valueAt? (n + 1) (text ++ rest) = some (v, rest)

theorem Reads.skipSpace {text : List Char} {v : Json} (h : Reads text v) {w : List Char}
    (hw : Blank w) (rest : List Char) : skipSpace (w ++ (text ++ rest)) = text ++ rest := by
  obtain ⟨⟨c, tail, rfl, hc⟩, -⟩ := h
  rw [skipSpace_append hw, List.cons_append, skipSpace_cons hc.ne_space.1]

/-- An item is read up to the comma or bracket after it. -/
theorem valueAt?_item {x : Item} (hp : x.Padded) (hx : Reads x.text x.value) {n : Nat}
    (hn : x.chars.length ≤ n) {c : Char} (hc : c ∈ [',', ']', '}']) (tail : List Char) :
    ∃ left, valueAt? n (skipSpace (x.chars ++ c :: tail)) = some (x.value, left) ∧
      skipSpace left = c :: tail := by
  have hpos : 0 < x.text.length := by
    obtain ⟨⟨_, _, htext, -⟩, -⟩ := hx
    simp [htext]
  rw [Item.chars, List.length_append, List.length_append] at hn
  obtain ⟨n, rfl⟩ : ∃ m, n = m + 1 := ⟨n - 1, by omega⟩
  have hstops : Stops (c :: tail) := by
    intro d hd
    obtain rfl : c = d := by simpa using hd
    exact .inr (by simpa using hc)
  have hspace : isSpace c = false := by
    have hall : ∀ c ∈ [',', ']', '}'], isSpace c = false := by simp [isSpace]
    exact hall c hc
  refine ⟨x.after ++ c :: tail, ?_, ?_⟩
  · rw [Item.chars, List.append_assoc, List.append_assoc, hx.skipSpace hp.1]
    exact hx.2 (by omega) (hstops.blank_append hp.2)
  · rw [skipSpace_append hp.2, skipSpace_cons hspace]

@[simp] theorem separated_singleton (text : List Char) : separated [text] = text := by
  simp [separated]

@[simp] theorem separated_cons_cons (text next : List Char) (texts : List (List Char)) :
    separated (text :: next :: texts) = text ++ ',' :: separated (next :: texts) := by
  simp [separated]

theorem exists_separated_cons (text : List Char) (texts : List (List Char)) (rest : List Char) :
    ∃ more, separated (text :: texts) ++ rest = text ++ more := by
  cases texts with
  | nil => exact ⟨rest, by simp⟩
  | cons next texts => exact ⟨',' :: (separated (next :: texts) ++ rest), by simp⟩

theorem itemsAt?_of_text {xs : List Item} (hne : xs ≠ []) (hp : ∀ x ∈ xs, x.Padded)
    (hv : ∀ x ∈ xs, Reads x.text x.value) {n : Nat}
    (hn : (separated (xs.map Item.chars)).length < n) (rest : List Char) :
    itemsAt? n (skipSpace (separated (xs.map Item.chars) ++ ']' :: rest))
      = some (xs.map Item.value, rest) := by
  induction xs generalizing n with
  | nil => exact absurd rfl hne
  | cons x xs ih =>
    obtain ⟨n, rfl⟩ : ∃ m, n = m + 1 := ⟨n - 1, by omega⟩
    obtain ⟨hpx, hp⟩ := List.forall_mem_cons.1 hp
    obtain ⟨hx, hv⟩ := List.forall_mem_cons.1 hv
    cases xs with
    | nil =>
      simp only [List.map_cons, List.map_nil, separated_singleton] at hn ⊢
      obtain ⟨left, hread, hleft⟩ := valueAt?_item hpx hx (n := n) (c := ']') (by omega)
        (by simp) rest
      simp [itemsAt?, hread, hleft]
    | cons y ys =>
      simp only [List.map_cons, separated_cons_cons, List.length_append, List.length_cons,
        List.append_assoc, List.cons_append] at hn ⊢
      obtain ⟨left, hread, hleft⟩ := valueAt?_item hpx hx (n := n) (c := ',') (by omega)
        (by simp) (separated (y.chars :: ys.map Item.chars) ++ ']' :: rest)
      have hrest := ih (List.cons_ne_nil y ys) hp hv (n := n)
        (by simp only [List.map_cons]; omega)
      simp only [List.map_cons] at hrest
      simp [itemsAt?, hread, hleft, hrest]

/-- The name of a member is read up to the colon after it. -/
theorem stringBody?_member {m : Member} (hp : m.Padded) (tail : List Char) :
    ∃ body name left, skipSpace (m.chars ++ tail) = '"' :: body ∧ m.name = String.ofList name ∧
      stringBody? (body.length + 1) body = some (name, left) ∧
      skipSpace left = ':' :: (m.item.chars ++ tail) := by
  obtain ⟨hbefore, hafter, -, hname⟩ := hp
  obtain ⟨body, hbody, name, hs, hread⟩ :=
    readString_of_text hname (m.after ++ ':' :: (m.item.chars ++ tail))
  refine ⟨body, name, _, ?_, hs, hread, ?_⟩
  · have hchars : m.chars ++ tail = m.before ++ '"' :: body := by
      simp [Member.chars, ← hbody]
    rw [hchars, skipSpace_append hbefore, skipSpace_cons rfl]
  · rw [skipSpace_append hafter, skipSpace_cons rfl]

theorem membersAt?_of_text {ms : List Member} (hne : ms ≠ []) (hp : ∀ m ∈ ms, m.Padded)
    (hv : ∀ m ∈ ms, Reads m.item.text m.item.value) {n : Nat}
    (hn : (separated (ms.map Member.chars)).length < n) (rest : List Char) :
    membersAt? n (skipSpace (separated (ms.map Member.chars) ++ '}' :: rest))
      = some (ms.map fun m => (m.name, m.item.value), rest) := by
  induction ms generalizing n with
  | nil => exact absurd rfl hne
  | cons m ms ih =>
    obtain ⟨n, rfl⟩ : ∃ k, n = k + 1 := ⟨n - 1, by omega⟩
    obtain ⟨hpm, hp⟩ := List.forall_mem_cons.1 hp
    obtain ⟨hm, hv⟩ := List.forall_mem_cons.1 hv
    have hlen : m.item.chars.length ≤ m.chars.length := by
      simp only [Member.chars, List.length_append, List.length_cons]
      omega
    cases ms with
    | nil =>
      simp only [List.map_cons, List.map_nil, separated_singleton] at hn ⊢
      obtain ⟨body, name, colon, hstart, hs, hname, hcolon⟩ := stringBody?_member hpm ('}' :: rest)
      obtain ⟨left, hread, hleft⟩ := valueAt?_item hpm.2.2.1 hm (n := n) (c := '}') (by omega)
        (by simp) rest
      simp [hstart, membersAt?, hname, hcolon, hread, hleft, hs]
    | cons k ks =>
      simp only [List.map_cons, separated_cons_cons, List.length_append, List.length_cons,
        List.append_assoc, List.cons_append] at hn ⊢
      obtain ⟨body, name, colon, hstart, hs, hname, hcolon⟩ := stringBody?_member hpm
        (',' :: (separated (k.chars :: ks.map Member.chars) ++ '}' :: rest))
      obtain ⟨left, hread, hleft⟩ := valueAt?_item hpm.2.2.1 hm (n := n) (c := ',') (by omega)
        (by simp) (separated (k.chars :: ks.map Member.chars) ++ '}' :: rest)
      have hrest := ih (List.cons_ne_nil k ks) hp hv (n := n)
        (by simp only [List.map_cons]; omega)
      simp only [List.map_cons] at hrest
      simp [hstart, membersAt?, hname, hcolon, hread, hleft, hs, hrest]

theorem valueAt?_number {cs rest : List Char} (h : NumberText cs) (n : Nat) :
    valueAt? (n + 1) (cs ++ rest) = number? (cs ++ rest) := by
  obtain ⟨c, tail, rfl, hc⟩ := h.start
  have hne : c ∉ ['"', '[', '{', 'n', 't', 'f'] := by
    have hall : ∀ d ∈ ['"', '[', '{', 'n', 't', 'f'], ¬(d = '-' ∨ d.isDigit = true) := by simp
    exact fun hmem => hall c hmem hc
  simp only [List.mem_cons, not_or, List.not_mem_nil] at hne
  simp [valueAt?, hne]

/-- **Every text of the grammar is read as its value.** -/
theorem reads_of_text {cs : List Char} {v : Json} (h : ValueText cs v) : Reads cs v := by
  refine ⟨h.start, ?_⟩
  induction h with
  | number h =>
    intro n rest _ hr
    rw [valueAt?_number h, number?_of_text h hr]
  | string h =>
    intro n rest _ _
    obtain ⟨body, hbody, s, rfl, hread⟩ := readString_of_text h rest
    rw [hbody]
    simp [valueAt?, hread]
  | @items xs hne hp hv ih =>
    intro n rest hn _
    have hreads : ∀ x ∈ xs, Reads x.text x.value := fun x hx => ⟨(hv x hx).start, ih x hx⟩
    have hitems := itemsAt?_of_text hne hp hreads (n := n)
      (by simp only [List.length_cons, List.length_append] at hn; omega) rest
    -- The first item is not taken for the closing bracket.
    obtain ⟨c, tail, hstart, hc⟩ : ∃ c tail,
        skipSpace (separated (xs.map Item.chars) ++ ']' :: rest) = c :: tail ∧ c ≠ ']' := by
      obtain ⟨x, xs, rfl⟩ := List.exists_cons_of_ne_nil hne
      obtain ⟨more, hmore⟩ := exists_separated_cons x.chars (xs.map Item.chars) (']' :: rest)
      have hx := hreads x List.mem_cons_self
      obtain ⟨⟨c, tail, htext, hc⟩, -⟩ := id hx
      refine ⟨c, tail ++ (x.after ++ more), ?_, hc.ne_space.2⟩
      rw [List.map_cons, hmore, Item.chars, List.append_assoc, List.append_assoc,
        hx.skipSpace (hp x List.mem_cons_self).1, htext, List.cons_append]
    rw [hstart] at hitems
    simp [valueAt?, hstart, hc, hitems]
  | @members ms hne hp hv ih =>
    intro n rest hn _
    have hreads : ∀ m ∈ ms, Reads m.item.text m.item.value :=
      fun m hm => ⟨(hv m hm).start, ih m hm⟩
    have hmembers := membersAt?_of_text hne hp hreads (n := n)
      (by simp only [List.length_cons, List.length_append] at hn; omega) rest
    obtain ⟨tail, hstart⟩ : ∃ tail,
        skipSpace (separated (ms.map Member.chars) ++ '}' :: rest) = '"' :: tail := by
      obtain ⟨m, ms, rfl⟩ := List.exists_cons_of_ne_nil hne
      obtain ⟨more, hmore⟩ := exists_separated_cons m.chars (ms.map Member.chars) ('}' :: rest)
      obtain ⟨body, -, -, hbody, -⟩ := stringBody?_member (hp m List.mem_cons_self) more
      exact ⟨body, by rw [List.map_cons, hmore, hbody]⟩
    rw [hstart] at hmembers
    simp [valueAt?, hstart, hmembers]
  | noItems h =>
    intro n rest _ _
    simp [valueAt?, skipSpace_append h, skipSpace_cons (c := ']') rfl]
  | noMembers h =>
    intro n rest _ _
    simp [valueAt?, skipSpace_append h, skipSpace_cons (c := '}') rfl]
  | _ =>
    intro n rest _ _
    simp [valueAt?, dropText?]

/-- **Every document of the grammar is read as its value.** -/
theorem read?_of_text {cs : List Char} {v : Json} (h : DocumentText cs v) :
    read? (String.ofList cs) = some v := by
  cases h with
  | @mk before cs after _ hb hv ha =>
    have hreads := reads_of_text hv
    have hstops : Stops after := by
      rw [← List.append_nil after]
      exact Stops.blank_append ha (by simp [Stops])
    have hleft : skipSpace after = [] := by
      rw [← List.append_nil after, skipSpace_append ha]
      rfl
    have hvalue := hreads.2 (n := (cs ++ after).length) (by rw [List.length_append]; omega) hstops
    rw [read?, String.toList_ofList, hreads.skipSpace hb, hvalue]
    simp [hleft]

/-- A text is a document of one value at most. -/
theorem DocumentText.unique {cs : List Char} {v w : Json} (hv : DocumentText cs v)
    (hw : DocumentText cs w) : v = w :=
  Option.some.inj ((read?_of_text hv).symm.trans (read?_of_text hw))

end CrateAtlas.Json
