import CrateAtlas.Proofs.JsonGrammar

/-!
# The text of a JSON value

What `Json.render` writes is JSON, whatever the value and the layout: every text in it is escaped
into ASCII and read back character by character (`Json.charText_escape`), with a surrogate pair
beyond the first 65536 code points, and the layout only puts white space around items.  The one
condition is that numbers, which are kept as they are spelled, are spelled as numbers
(`Json.WellSpelled`).

**A well-spelled value is what its document stands for, and the document is ASCII**
(`Json.documentText_render_iff`, `Json.ascii_chars`).
-/

set_option autoImplicit false

namespace CrateAtlas.Json

/-- All numbers of the value are spelled as numbers. -/
inductive WellSpelled : Json → Prop
  | null : WellSpelled .null
  | bool (b : Bool) : WellSpelled (.bool b)
  | number {literal : String} (h : NumberText literal.toList) : WellSpelled (.number literal)
  | string (s : String) : WellSpelled (.string s)
  | array {vs : List Json} (h : ∀ v ∈ vs, WellSpelled v) : WellSpelled (.array vs)
  | object {ms : List (String × Json)} (h : ∀ m ∈ ms, WellSpelled m.2) : WellSpelled (.object ms)

/-! ## Strings -/

theorem isHex_hexDigit {n : Nat} (h : n < 16) : IsHex (hexDigit n) n := by
  have hall : ∀ n < 16, "0123456789abcdef".toList[n]? = some (hexDigit n) := by decide
  exact .inl (hall n h)

theorem unitEscape_eq {u : Nat} (h : u < 65536) :
    ∃ ds, unitEscape u = '\\' :: 'u' :: ds ∧ UnitText ds u := by
  refine ⟨_, rfl, ?_⟩
  have htext := UnitText.mk (isHex_hexDigit (n := u / 4096 % 16) (by omega))
    (isHex_hexDigit (n := u / 256 % 16) (by omega)) (isHex_hexDigit (n := u / 16 % 16) (by omega))
    (isHex_hexDigit (n := u % 16) (by omega))
  have hu : u / 4096 % 16 * 4096 + u / 256 % 16 * 256 + u / 16 % 16 * 16 + u % 16 = u := by omega
  rwa [hu] at htext

/-- The four kinds of escapes. -/
theorem escape_cases (c : Char) :
    (∃ e, (e, c) ∈ shortEscapes ∧ escape c = ['\\', e]) ∨
    (32 ≤ c.toNat ∧ c.toNat < 127 ∧ c ≠ '"' ∧ c ≠ '\\' ∧ escape c = [c]) ∨
    (c.toNat < 65536 ∧ escape c = unitEscape c.toNat) ∨
    (65536 ≤ c.toNat ∧ escape c = unitEscape (55296 + (c.toNat - 65536) / 1024) ++
      unitEscape (56320 + (c.toNat - 65536) % 1024)) := by
  have of_toNat {n : Nat} (h : c.toNat = n) : c = Char.ofNat n := by
    rw [← h, Char.ofNat_toNat]
  unfold escape
  by_cases hquote : c = '"'
  · rw [if_pos hquote]
    exact .inl ⟨'"', by subst hquote; decide, rfl⟩
  rw [if_neg hquote]
  by_cases hbackslash : c = '\\'
  · rw [if_pos hbackslash]
    exact .inl ⟨'\\', by subst hbackslash; decide, rfl⟩
  rw [if_neg hbackslash]
  by_cases hn : c = '\n'
  · rw [if_pos hn]
    exact .inl ⟨'n', by subst hn; decide, rfl⟩
  rw [if_neg hn]
  by_cases hr : c = '\r'
  · rw [if_pos hr]
    exact .inl ⟨'r', by subst hr; decide, rfl⟩
  rw [if_neg hr]
  by_cases ht : c = '\t'
  · rw [if_pos ht]
    exact .inl ⟨'t', by subst ht; decide, rfl⟩
  rw [if_neg ht]
  by_cases hb : c.toNat = 8
  · rw [if_pos hb]
    exact .inl ⟨'b', by rw [of_toNat hb]; decide, rfl⟩
  rw [if_neg hb]
  by_cases hf : c.toNat = 12
  · rw [if_pos hf]
    exact .inl ⟨'f', by rw [of_toNat hf]; decide, rfl⟩
  rw [if_neg hf]
  by_cases hplain : 32 ≤ c.toNat ∧ c.toNat < 127
  · rw [if_pos hplain]
    exact .inr (.inl ⟨hplain.1, hplain.2, hquote, hbackslash, rfl⟩)
  rw [if_neg hplain]
  by_cases hunit : c.toNat < 65536
  · rw [if_pos hunit]
    exact .inr (.inr (.inl ⟨hunit, rfl⟩))
  · rw [if_neg hunit]
    exact .inr (.inr (.inr ⟨Nat.le_of_not_lt hunit, rfl⟩))

/-- **An escape stands for its character.** -/
theorem charText_escape (c : Char) : CharText (escape c) c := by
  have hc : Char.ofNat c.toNat = c := Char.ofNat_toNat c
  -- No character is a surrogate, or beyond the last code point.
  have hvalid : c.toNat < 55296 ∨ 57343 < c.toNat ∧ c.toNat < 1114112 := c.valid
  rcases escape_cases c with ⟨e, he, h⟩ | ⟨hlow, -, hquote, hbackslash, h⟩ | ⟨hlt, h⟩ | ⟨hle, h⟩
  · exact h ▸ .short he
  · exact h ▸ .plain hlow hquote hbackslash
  · obtain ⟨ds, hds, htext⟩ := unitEscape_eq hlt
    have hchar := CharText.unit htext (by omega)
    rwa [hc, ← hds, ← h] at hchar
  · obtain ⟨ds, hds, htext⟩ := unitEscape_eq (u := 55296 + (c.toNat - 65536) / 1024) (by omega)
    obtain ⟨ds', hds', htext'⟩ := unitEscape_eq (u := 56320 + (c.toNat - 65536) % 1024) (by omega)
    have hchar := CharText.pair htext htext' (by omega) (by omega)
    have hcode : 65536 + (55296 + (c.toNat - 65536) / 1024 - 55296) * 1024
        + (56320 + (c.toNat - 65536) % 1024 - 56320) = c.toNat := by omega
    rw [hcode, hc] at hchar
    rwa [h, hds, hds', List.cons_append, List.cons_append]

theorem bodyText_escape (s : List Char) : BodyText (s.flatMap escape) s := by
  induction s with
  | nil => exact .nil
  | cons c s ih => exact .cons (charText_escape c) ih

theorem stringText_quote (s : String) : StringText (quote s) s := by
  have htext := StringText.mk (bodyText_escape s.toList)
  rwa [String.ofList_toList] at htext

/-! ## Layout -/

theorem blank_lead (i : Indent) (depth : Nat) : Blank (i.lead depth) := by
  intro c hc
  cases i with
  | none => cases hc
  | some n =>
    rcases List.mem_cons.1 hc with rfl | hc
    · rfl
    · rw [List.eq_of_mem_replicate hc]
      rfl

theorem between_eq (i : Indent) (depth : Nat) : ∃ w, Blank w ∧ i.between depth = ',' :: w := by
  cases i with
  | none => exact ⟨[' '], by simp [Blank, isSpace], rfl⟩
  | some n => exact ⟨_, blank_lead (some n) depth, rfl⟩

/-- The items of an array as they are laid out: the first with `w` before it, the last with `close`
after it. -/
theorem exists_items {i : Indent} {depth : Nat} {close : List Char} (hclose : Blank close)
    {v : Json} {vs : List Json} (h : ∀ u ∈ v :: vs, ValueText (chars i depth u) u) {w : List Char}
    (hw : Blank w) :
    ∃ xs : List Item, xs ≠ [] ∧ (∀ x ∈ xs, x.Padded) ∧ (∀ x ∈ xs, ValueText x.text x.value) ∧
      xs.map Item.value = v :: vs ∧
      separated (xs.map Item.chars) = w ++ chars i depth v ++ itemChars i depth vs ++ close := by
  induction vs generalizing v w with
  | nil =>
    refine ⟨[⟨w, chars i depth v, close, v⟩], by simp, ?_, ?_, rfl, ?_⟩
    · simpa [Item.Padded] using ⟨hw, hclose⟩
    · simpa using h
    · simp [Item.chars, itemChars]
  | cons u us ih =>
    obtain ⟨hv, hus⟩ := List.forall_mem_cons.1 h
    obtain ⟨gap, hgap, hbetween⟩ := between_eq i depth
    obtain ⟨xs, hne, hp, htext, hvalue, hchars⟩ := ih hus hgap
    refine ⟨⟨w, chars i depth v, [], v⟩ :: xs, by simp, ?_, ?_, by simp [hvalue], ?_⟩
    · exact List.forall_mem_cons.2 ⟨⟨hw, by simp [Blank]⟩, hp⟩
    · exact List.forall_mem_cons.2 ⟨hv, htext⟩
    · obtain ⟨x, xs, rfl⟩ := List.exists_cons_of_ne_nil hne
      rw [List.map_cons, List.map_cons, separated_cons_cons, ← List.map_cons, hchars]
      simp [Item.chars, itemChars, hbetween]

/-- The members of an object as they are laid out. -/
theorem exists_members {i : Indent} {depth : Nat} {close : List Char} (hclose : Blank close)
    {k : String} {v : Json} {ms : List (String × Json)}
    (h : ∀ m ∈ (k, v) :: ms, ValueText (chars i depth m.2) m.2) {w : List Char} (hw : Blank w) :
    ∃ xs : List Member, xs ≠ [] ∧ (∀ x ∈ xs, x.Padded) ∧
      (∀ x ∈ xs, ValueText x.item.text x.item.value) ∧
      xs.map (fun x => (x.name, x.item.value)) = (k, v) :: ms ∧
      separated (xs.map Member.chars)
        = w ++ quote k ++ [':', ' '] ++ chars i depth v ++ memberChars i depth ms ++ close := by
  have hspace : Blank [' '] := by simp [Blank, isSpace]
  have hnone : Blank [] := by simp [Blank]
  induction ms generalizing k v w with
  | nil =>
    refine ⟨[⟨w, quote k, [], k, ⟨[' '], chars i depth v, close, v⟩⟩], by simp, ?_, ?_, rfl, ?_⟩
    · simpa [Member.Padded, Item.Padded] using ⟨hw, hnone, ⟨hspace, hclose⟩, stringText_quote k⟩
    · simpa using h
    · simp [Member.chars, Item.chars, memberChars]
  | cons m ms ih =>
    obtain ⟨hv, hms⟩ := List.forall_mem_cons.1 h
    obtain ⟨gap, hgap, hbetween⟩ := between_eq i depth
    obtain ⟨xs, hne, hp, htext, hvalue, hchars⟩ := ih hms hgap
    refine ⟨⟨w, quote k, [], k, ⟨[' '], chars i depth v, [], v⟩⟩ :: xs, by simp, ?_, ?_,
      by simp [hvalue], ?_⟩
    · exact List.forall_mem_cons.2 ⟨⟨hw, hnone, ⟨hspace, hnone⟩, stringText_quote k⟩, hp⟩
    · exact List.forall_mem_cons.2 ⟨hv, htext⟩
    · obtain ⟨x, xs, rfl⟩ := List.exists_cons_of_ne_nil hne
      rw [List.map_cons, List.map_cons, separated_cons_cons, ← List.map_cons, hchars]
      simp [Member.chars, Item.chars, memberChars, hbetween]

/-- **The text of a well-spelled value is JSON for that value**, in every layout and at every
depth. -/
theorem valueText_chars {v : Json} (h : WellSpelled v) (i : Indent) (depth : Nat) :
    ValueText (chars i depth v) v := by
  induction h generalizing depth with
  | null => exact .null
  | bool b => cases b <;> constructor
  | number h =>
    have htext := ValueText.number h
    rwa [String.ofList_toList] at htext
  | string s => exact .string (stringText_quote s)
  | @array vs _ ih =>
    cases vs with
    | nil => exact .noItems (w := []) (by simp [Blank])
    | cons v vs =>
      obtain ⟨xs, hne, hp, htext, hvalue, hchars⟩ := exists_items (blank_lead i depth)
        (fun u hu => ih u hu (depth + 1)) (blank_lead i (depth + 1))
      have harray := ValueText.items hne hp htext
      rwa [hvalue, hchars] at harray
  | @object ms _ ih =>
    cases ms with
    | nil => exact .noMembers (w := []) (by simp [Blank])
    | cons m ms =>
      obtain ⟨xs, hne, hp, htext, hvalue, hchars⟩ := exists_members (blank_lead i depth)
        (fun m hm => ih m hm (depth + 1)) (blank_lead i (depth + 1))
      have hobject := ValueText.members hne hp htext
      rwa [hvalue, hchars] at hobject

/-- The document of a well-spelled value stands for that value and no other. -/
theorem documentText_render_iff {v : Json} (h : WellSpelled v) (i : Indent) (w : Json) :
    DocumentText (v.render i).toList w ↔ w = v := by
  have hv : DocumentText (v.render i).toList v := by
    have hnone : Blank [] := by simp [Blank]
    have hdoc := DocumentText.mk hnone (valueText_chars h i 0) hnone
    rwa [List.nil_append, List.append_nil, ← String.toList_ofList (l := chars i 0 v)] at hdoc
  exact ⟨fun hw => hw.unique hv, fun hw => hw ▸ hv⟩

/-! ## ASCII -/

/-- All characters are ASCII. -/
def Ascii (cs : List Char) : Prop := ∀ c ∈ cs, c.toNat < 128

@[simp] theorem ascii_nil : Ascii [] := by simp [Ascii]

@[simp] theorem ascii_cons {c : Char} {cs : List Char} :
    Ascii (c :: cs) ↔ c.toNat < 128 ∧ Ascii cs :=
  List.forall_mem_cons

@[simp] theorem ascii_append {cs ds : List Char} : Ascii (cs ++ ds) ↔ Ascii cs ∧ Ascii ds :=
  List.forall_mem_append

theorem ascii_of_blank {w : List Char} (h : Blank w) : Ascii w := by
  intro c hc
  have hspace := h c hc
  simp only [isSpace, Bool.or_eq_true, decide_eq_true_eq] at hspace
  rcases hspace with ((rfl | rfl) | rfl) | rfl <;> decide

theorem ascii_digits {cs : List Char} (h : DigitsText cs) : Ascii cs := by
  intro c hc
  have hd := h.2 c hc
  simp only [Char.isDigit, Bool.and_eq_true, decide_eq_true_eq] at hd
  have : c.val.toNat ≤ 57 := hd.2
  exact Nat.lt_of_le_of_lt this (by decide)

theorem ascii_number {cs : List Char} (h : NumberText cs) : Ascii cs := by
  obtain ⟨hs, hw, hf, he⟩ := h
  rw [ascii_append, ascii_append, ascii_append]
  refine ⟨?_, ascii_digits (digitsText_of_whole hw), ?_, ?_⟩
  · rcases hs with rfl | rfl <;> simp
  · cases hf with
    | absent => exact ascii_nil
    | present h => simp [ascii_digits h]
  · cases he with
    | absent => exact ascii_nil
    | present he hs h =>
      rcases he with rfl | rfl <;> rcases hs with rfl | rfl | rfl <;> simp [ascii_digits h]

theorem ascii_unitEscape (u : Nat) : Ascii (unitEscape u) := by
  have hall : ∀ n < 16, (hexDigit n).toNat < 128 := by decide
  simp [unitEscape, hall, Nat.mod_lt]

theorem ascii_escape (c : Char) : Ascii (escape c) := by
  have hletters : ∀ p ∈ shortEscapes, p.1.toNat < 128 := by decide
  rcases escape_cases c with ⟨e, he, h⟩ | ⟨-, hlt, -, -, h⟩ | ⟨-, h⟩ | ⟨-, h⟩
  · simp [h, hletters _ he]
  · simpa [h] using Nat.lt_succ_of_lt hlt
  · exact h ▸ ascii_unitEscape _
  · exact h ▸ ascii_append.2 ⟨ascii_unitEscape _, ascii_unitEscape _⟩

theorem ascii_quote (s : String) : Ascii (quote s) := by
  have hbody : Ascii (s.toList.flatMap escape) := by
    intro c hc
    obtain ⟨d, -, hd⟩ := List.mem_flatMap.1 hc
    exact ascii_escape d c hd
  simp [quote, hbody]

theorem ascii_lead (i : Indent) (depth : Nat) : Ascii (i.lead depth) :=
  ascii_of_blank (blank_lead i depth)

theorem ascii_between (i : Indent) (depth : Nat) : Ascii (i.between depth) := by
  obtain ⟨w, hw, hbetween⟩ := between_eq i depth
  simp [hbetween, ascii_of_blank hw]

theorem ascii_itemChars {i : Indent} {depth : Nat} {vs : List Json}
    (h : ∀ v ∈ vs, Ascii (chars i depth v)) : Ascii (itemChars i depth vs) := by
  induction vs with
  | nil => simp [itemChars]
  | cons v vs ih =>
    obtain ⟨hv, hvs⟩ := List.forall_mem_cons.1 h
    simp [itemChars, ascii_between, hv, ih hvs]

theorem ascii_memberChars {i : Indent} {depth : Nat} {ms : List (String × Json)}
    (h : ∀ m ∈ ms, Ascii (chars i depth m.2)) : Ascii (memberChars i depth ms) := by
  induction ms with
  | nil => simp [memberChars]
  | cons m ms ih =>
    obtain ⟨hm, hms⟩ := List.forall_mem_cons.1 h
    simp [memberChars, ascii_between, ascii_quote, hm, ih hms]

/-- **The text of a well-spelled value is ASCII.** -/
theorem ascii_chars {v : Json} (h : WellSpelled v) (i : Indent) (depth : Nat) :
    Ascii (chars i depth v) := by
  induction h generalizing depth with
  | null => simp [chars]
  | bool b => cases b <;> simp [chars]
  | number h => exact ascii_number h
  | string s => exact ascii_quote s
  | @array vs _ ih =>
    cases vs with
    | nil => simp [chars]
    | cons v vs =>
      obtain ⟨hv, hvs⟩ := List.forall_mem_cons.1 fun u hu => ih u hu (depth + 1)
      simp [chars, ascii_lead, hv, ascii_itemChars hvs]
  | @object ms _ ih =>
    cases ms with
    | nil => simp [chars]
    | cons m ms =>
      obtain ⟨hm, hms⟩ := List.forall_mem_cons.1 fun m hm => ih m hm (depth + 1)
      simp [chars, ascii_lead, ascii_quote, hm, ascii_memberChars hms]

end CrateAtlas.Json
