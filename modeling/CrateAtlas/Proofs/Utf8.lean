import CrateAtlas.Text.Utf8

/-!
# Text that is UTF-8

The decoder goes by a table: what the first octet of a character says about the octets after it.
The library goes the other way and writes characters as octets.  That the two are inverse to each
other comes down to one character: **a character and a rest are read off octets exactly if writing
the character in front of the rest gives those octets** (`reads_iff`).

So a sequence of octets is decoded exactly if it is valid UTF-8 by the definition of the library
(`exists_decode_eq_error_iff`).
-/

set_option autoImplicit false

namespace CrateAtlas.Text

/-- The octets of a character. -/
def encodeChar (c : Char) : List Nat := (String.utf8EncodeChar c).map UInt8.toNat

/-- The octets of a text. -/
def encode (cs : List Char) : List Nat := cs.flatMap encodeChar

/-- The octets are a text in UTF-8. -/
def IsUtf8 (octets : List Nat) : Prop :=
  ∃ bytes : ByteArray, bytes.IsValidUTF8 ∧ octets = bytes.data.toList.map UInt8.toNat

theorem isUtf8_iff {octets : List Nat} : IsUtf8 octets ↔ ∃ cs, octets = encode cs := by
  have hencode : ∀ cs : List Char, cs.utf8Encode.data.toList.map UInt8.toNat = encode cs := by
    intro cs
    rw [List.utf8Encode, List.toList_data_toByteArray, List.map_flatMap]
    rfl
  constructor
  · rintro ⟨_, ⟨cs, rfl⟩, rfl⟩
    exact ⟨cs, hencode cs⟩
  · rintro ⟨cs, rfl⟩
    exact ⟨_, ⟨cs, rfl⟩, (hencode cs).symm⟩

/-! ## Writing a character -/

variable {c : Char}

/-- The number of a character is neither a surrogate nor beyond the last code point. -/
theorem toNat_cases (c : Char) : c.toNat < 0xD800 ∨ 0xDFFF < c.toNat ∧ c.toNat < 0x110000 :=
  c.valid

/-- The octets of the character with the given number. -/
def numberOctets (n : Nat) : List Nat :=
  if n ≤ 0x7F then [n]
  else if n ≤ 0x7FF then [n / 64 + 0xC0, n % 64 + 0x80]
  else if n ≤ 0xFFFF then [n / 4096 + 0xE0, n / 64 % 64 + 0x80, n % 64 + 0x80]
  else [n / 262144 + 0xF0, n / 4096 % 64 + 0x80, n / 64 % 64 + 0x80, n % 64 + 0x80]

theorem encodeChar_eq (c : Char) : encodeChar c = numberOctets c.toNat := by
  have hvalid := toNat_cases c
  have hval : c.val.toNat = c.toNat := rfl
  simp only [encodeChar, String.utf8EncodeChar, hval, numberOctets]
  -- The library reduces the bits of the first octet, and each octet to eight bits; the number is
  -- too small in each case for this to make a difference.
  repeat' split
  all_goals
    simp only [List.map_cons, List.map_nil, UInt8.toNat_ofNat', List.cons.injEq, and_true]
    omega

theorem encodeChar_ne_nil (c : Char) : encodeChar c ≠ [] := by
  simp [encodeChar]

theorem encodeChar_ofNat {n : Nat} (h : n < 0xD800 ∨ 0xDFFF < n ∧ n < 0x110000) :
    encodeChar (Char.ofNat n) = numberOctets n := by
  have hn : (Char.ofNat n).toNat = n := by
    rw [Char.ofNat, dif_pos h]
    rfl
  rw [encodeChar_eq, hn]

/-! ## Reading a character -/

variable {b owed least greatest value taken : Nat} {rest after : List Nat}

/-- What the first octet of a character says about the others. -/
theorem tailsAfter_eq_some_iff : tailsAfter b = some (owed, least, greatest) ↔
    (b ≤ 0x7F ∧ owed = 0 ∧ least = 0x80 ∧ greatest = 0xBF) ∨
    (0xC2 ≤ b ∧ b ≤ 0xDF ∧ owed = 1 ∧ least = 0x80 ∧ greatest = 0xBF) ∨
    (0xE0 ≤ b ∧ b ≤ 0xEF ∧ owed = 2 ∧ (b = 0xE0 ∧ least = 0xA0 ∨ b ≠ 0xE0 ∧ least = 0x80) ∧
      (b = 0xED ∧ greatest = 0x9F ∨ b ≠ 0xED ∧ greatest = 0xBF)) ∨
    (0xF0 ≤ b ∧ b ≤ 0xF4 ∧ owed = 3 ∧ (b = 0xF0 ∧ least = 0x90 ∨ b ≠ 0xF0 ∧ least = 0x80) ∧
      (b = 0xF4 ∧ greatest = 0x8F ∨ b ≠ 0xF4 ∧ greatest = 0xBF)) := by
  unfold tailsAfter
  grind

theorem tails_zero_eq_ok_iff : tails 0 least greatest value taken rest = .ok (c, after) ↔
    c = Char.ofNat value ∧ rest = after := by
  simp [tails, eq_comm]

theorem tails_succ_eq_ok_iff :
    tails (owed + 1) least greatest value taken rest = .ok (c, after) ↔
      ∃ d tail, rest = d :: tail ∧ least ≤ d ∧ d ≤ greatest ∧
        tails owed 0x80 0xBF (value * 64 + d % 64) (taken + 1) tail = .ok (c, after) := by
  cases rest with
  | nil => simp [tails]
  | cons d tail =>
    rw [tails]
    split
    · rename_i hd
      constructor
      · exact fun h => ⟨d, tail, rfl, hd.1, hd.2, h⟩
      · rintro ⟨_, _, ⟨⟩, -, -, h⟩
        exact h
    · rename_i hd
      constructor
      · intro h
        cases h
      · rintro ⟨_, _, ⟨⟩, hle, hge, -⟩
        exact absurd ⟨hle, hge⟩ hd

/-- As many octets are read as are owed. -/
theorem length_of_tails_eq_ok (h : tails owed least greatest value taken rest = .ok (c, after)) :
    rest.length = owed + after.length := by
  induction owed generalizing least greatest value taken rest with
  | zero =>
    obtain ⟨-, rfl⟩ := tails_zero_eq_ok_iff.1 h
    rw [Nat.zero_add]
  | succ owed ih =>
    obtain ⟨d, tail, rfl, -, -, htail⟩ := tails_succ_eq_ok_iff.1 h
    rw [List.length_cons, ih htail]
    omega

/-- A character and the rest are read off these octets. -/
def Reads (b : Nat) (rest : List Nat) (c : Char) (after : List Nat) : Prop :=
  ∃ owed least greatest, tailsAfter b = some (owed, least, greatest) ∧
    tails owed least greatest (leadBits b owed) 1 rest = .ok (c, after)

/-- What is read off octets is written as these octets. -/
theorem Reads.eq_encodeChar_append (h : Reads b rest c after) :
    b :: rest = encodeChar c ++ after := by
  obtain ⟨owed, least, greatest, hb, h⟩ := h
  -- The number of the character is computed from the octets, and the bounds on the second octet
  -- are what makes it the number of a character, and too large for a shorter form.
  rcases tailsAfter_eq_some_iff.1 hb with ⟨hle, rfl, rfl, rfl⟩ | ⟨hge, hle, rfl, rfl, rfl⟩ |
    ⟨hge, hle, rfl, hleast, hgreatest⟩ | ⟨hge, hle, rfl, hleast, hgreatest⟩
  · obtain ⟨rfl, rfl⟩ := tails_zero_eq_ok_iff.1 h
    have hlead : leadBits b 0 = b := rfl
    rw [hlead, encodeChar_ofNat (by omega), numberOctets, if_pos hle]
    rfl
  · simp only [tails_succ_eq_ok_iff, tails_zero_eq_ok_iff] at h
    obtain ⟨d₁, _, rfl, h₁, h₁', rfl, rfl⟩ := h
    have hlead : leadBits b 1 = b % 32 := rfl
    rw [hlead, encodeChar_ofNat (by omega), numberOctets, if_neg (by omega), if_pos (by omega)]
    simp only [List.cons_append, List.nil_append, List.cons.injEq, and_true]
    omega
  · simp only [tails_succ_eq_ok_iff, tails_zero_eq_ok_iff] at h
    obtain ⟨d₁, _, rfl, h₁, h₁', d₂, _, rfl, h₂, h₂', rfl, rfl⟩ := h
    have hlead : leadBits b 2 = b % 16 := rfl
    rw [hlead, encodeChar_ofNat (by omega), numberOctets, if_neg (by omega), if_neg (by omega),
      if_pos (by omega)]
    simp only [List.cons_append, List.nil_append, List.cons.injEq, and_true]
    omega
  · simp only [tails_succ_eq_ok_iff, tails_zero_eq_ok_iff] at h
    obtain ⟨d₁, _, rfl, h₁, h₁', d₂, _, rfl, h₂, h₂', d₃, _, rfl, h₃, h₃', rfl, rfl⟩ := h
    have hlead : leadBits b 3 = b % 8 := rfl
    rw [hlead, encodeChar_ofNat (by omega), numberOctets, if_neg (by omega), if_neg (by omega),
      if_neg (by omega)]
    simp only [List.cons_append, List.nil_append, List.cons.injEq, and_true]
    omega

/-- A character that was written is read. -/
theorem reads_of_eq_encodeChar_append (h : b :: rest = encodeChar c ++ after) :
    Reads b rest c after := by
  have hvalid := toNat_cases c
  have hc : ∀ n, n = c.toNat → c = Char.ofNat n := by
    rintro _ rfl
    exact (Char.ofNat_toNat c).symm
  rw [encodeChar_eq, numberOctets] at h
  split at h
  · obtain ⟨rfl, rfl⟩ := List.cons.inj h
    refine ⟨_, _, _, tailsAfter_eq_some_iff.2 (.inl ⟨‹_›, rfl, rfl, rfl⟩), ?_⟩
    exact tails_zero_eq_ok_iff.2 ⟨hc _ rfl, rfl⟩
  split at h
  · obtain ⟨rfl, rfl⟩ := List.cons.inj h
    have hlead : leadBits (c.toNat / 64 + 0xC0) 1 = (c.toNat / 64 + 0xC0) % 32 := rfl
    refine ⟨1, 0x80, 0xBF, tailsAfter_eq_some_iff.2 (by omega), ?_⟩
    rw [hlead, tails_succ_eq_ok_iff]
    exact ⟨_, _, rfl, by omega, by omega, tails_zero_eq_ok_iff.2 ⟨hc _ (by omega), rfl⟩⟩
  split at h
  · obtain ⟨rfl, rfl⟩ := List.cons.inj h
    have hlead : leadBits (c.toNat / 4096 + 0xE0) 2 = (c.toNat / 4096 + 0xE0) % 16 := rfl
    refine ⟨2, if c.toNat < 0x1000 then 0xA0 else 0x80,
      if c.toNat < 0xE000 ∧ 0xD000 ≤ c.toNat then 0x9F else 0xBF,
      tailsAfter_eq_some_iff.2 (by split <;> split <;> omega), ?_⟩
    simp only [hlead, tails_succ_eq_ok_iff]
    exact ⟨_, _, rfl, by split <;> omega, by split <;> omega, _, _, rfl, by omega, by omega,
      tails_zero_eq_ok_iff.2 ⟨hc _ (by omega), rfl⟩⟩
  · obtain ⟨rfl, rfl⟩ := List.cons.inj h
    have hlead : leadBits (c.toNat / 262144 + 0xF0) 3 = (c.toNat / 262144 + 0xF0) % 8 := rfl
    refine ⟨3, if c.toNat < 0x40000 then 0x90 else 0x80,
      if 0x100000 ≤ c.toNat then 0x8F else 0xBF,
      tailsAfter_eq_some_iff.2 (by split <;> split <;> omega), ?_⟩
    simp only [hlead, tails_succ_eq_ok_iff]
    exact ⟨_, _, rfl, by split <;> omega, by split <;> omega, _, _, rfl, by omega, by omega,
      _, _, rfl, by omega, by omega, tails_zero_eq_ok_iff.2 ⟨hc _ (by omega), rfl⟩⟩

/-- **Reading and writing a character are inverse to each other.** -/
theorem reads_iff : Reads b rest c after ↔ b :: rest = encodeChar c ++ after :=
  ⟨Reads.eq_encodeChar_append, reads_of_eq_encodeChar_append⟩

/-! ## Reading a text -/

theorem cons_eq_encode_iff {cs : List Char} : b :: rest = encode cs ↔
    ∃ c cs', cs = c :: cs' ∧ Reads b rest c (encode cs') := by
  constructor
  · intro h
    cases cs with
    | nil => cases h
    | cons c cs' => exact ⟨c, cs', rfl, reads_iff.2 h⟩
  · rintro ⟨c, cs', rfl, h⟩
    exact reads_iff.1 h

/-- **Exactly what was written is read**, at any position. -/
theorem decodeFrom_eq_ok_iff {position : Nat} {octets : List Nat} {cs : List Char} :
    decodeFrom position octets = .ok cs ↔ octets = encode cs := by
  fun_induction decodeFrom position octets generalizing cs with
  | case1 position =>
    rw [Except.ok.injEq, eq_comm]
    cases cs with
    | nil => simp [encode]
    | cons c cs => simp [encode, encodeChar_ne_nil]
  | case2 position b rest htable =>
    refine iff_of_false (by simp) fun h => ?_
    obtain ⟨c, cs', -, owed, least, greatest, hsome, -⟩ := cons_eq_encode_iff.1 h
    cases htable.symm.trans hsome
  | case3 position b rest owed least greatest htable problem taken htails =>
    refine iff_of_false (by simp) fun h => ?_
    obtain ⟨c, cs', -, owed', least', greatest', hsome, hok⟩ := cons_eq_encode_iff.1 h
    cases htable.symm.trans hsome
    cases htails.symm.trans hok
  | case4 position b rest owed least greatest htable c after htails fault hrest ih =>
    refine iff_of_false (by simp) fun h => ?_
    obtain ⟨c', cs', -, owed', least', greatest', hsome, hok⟩ := cons_eq_encode_iff.1 h
    cases htable.symm.trans hsome
    cases htails.symm.trans hok
    cases hrest.symm.trans (ih.2 rfl)
  | case5 position b rest owed least greatest htable c after htails cs' hrest ih =>
    rw [Except.ok.injEq]
    constructor
    · rintro rfl
      refine cons_eq_encode_iff.2 ⟨c, cs', rfl, owed, least, greatest, htable, ?_⟩
      rw [← ih.1 hrest]
      exact htails
    · intro h
      obtain ⟨d, ds, rfl, owed', least', greatest', hsome, hok⟩ := cons_eq_encode_iff.1 h
      cases htable.symm.trans hsome
      cases htails.symm.trans hok
      cases hrest.symm.trans (ih.2 rfl)
      rfl

theorem decode_eq_ok_iff {octets : List Nat} {cs : List Char} :
    decode octets = .ok cs ↔ octets = encode cs :=
  decodeFrom_eq_ok_iff

theorem decode_encode (cs : List Char) : decode (encode cs) = .ok cs := decode_eq_ok_iff.2 rfl

/-- A fault starts where the text before it ends. -/
theorem exists_of_decodeFrom_eq_error {position : Nat} {octets : List Nat} {fault : Utf8Fault}
    (h : decodeFrom position octets = .error fault) :
    ∃ cs after, octets = encode cs ++ after ∧ fault.start = position + (encode cs).length := by
  fun_induction decodeFrom position octets with
  | case1 => cases h
  | case2 position b rest =>
    cases h
    exact ⟨[], _, rfl, rfl⟩
  | case3 position b rest =>
    cases h
    exact ⟨[], _, rfl, rfl⟩
  | case4 position b rest owed least greatest htable c after htails fault' hrest ih =>
    cases h
    obtain ⟨cs, after', hafter, hstart⟩ := ih hrest
    have hchar := reads_iff.1 ⟨owed, least, greatest, htable, htails⟩
    have hlength := congrArg List.length hchar
    rw [List.length_cons, List.length_append, length_of_tails_eq_ok htails] at hlength
    refine ⟨c :: cs, after', ?_, ?_⟩
    · rw [hchar, hafter, encode, encode, List.flatMap_cons, List.append_assoc]
    · rw [hstart, encode, encode, List.flatMap_cons, List.length_append]
      omega
  | case5 => cases h

/-- What comes before a fault is a text. -/
theorem exists_take_eq_encode {octets : List Nat} {fault : Utf8Fault}
    (h : decode octets = .error fault) : ∃ cs, octets.take fault.start = encode cs := by
  obtain ⟨cs, after, rfl, hstart⟩ := exists_of_decodeFrom_eq_error h
  refine ⟨cs, ?_⟩
  rw [hstart, Nat.zero_add, List.take_left]

/-- **What is refused is what is not UTF-8.** -/
theorem exists_decode_eq_error_iff {octets : List Nat} :
    (∃ fault, decode octets = .error fault) ↔ ¬IsUtf8 octets := by
  rw [isUtf8_iff]
  cases h : decode octets with
  | error fault =>
    refine iff_of_true ⟨fault, rfl⟩ ?_
    rintro ⟨cs, hcs⟩
    cases h.symm.trans (decode_eq_ok_iff.2 hcs)
  | ok cs =>
    refine iff_of_false (by simp) (not_not_intro ⟨cs, decode_eq_ok_iff.1 h⟩)

end CrateAtlas.Text
