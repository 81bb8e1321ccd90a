import CardDeck.Proofs.Encoding.Law

set_option autoImplicit false

namespace CardDeck.Utf8

/-- A byte that stands behind the first one of a character. -/
def Further (byte : UInt8) : Prop := 0x80 ≤ byte.toNat ∧ byte.toNat ≤ 0xBF

/-- The bytes of one character. -/
inductive Sequence : List UInt8 → Prop where
  | one {a : UInt8} (first : a.toNat ≤ 0x7F) : Sequence [a]
  | two {a b : UInt8} (first : 0xC2 ≤ a.toNat ∧ a.toNat ≤ 0xDF) (second : Further b) :
    Sequence [a, b]
  | three {a b c : UInt8} (first : 0xE0 ≤ a.toNat ∧ a.toNat ≤ 0xEF) (second : Further b)
    (third : Further c) (needed : a.toNat = 0xE0 → 0xA0 ≤ b.toNat)
    (scalar : a.toNat = 0xED → b.toNat ≤ 0x9F) : Sequence [a, b, c]
  | four {a b c d : UInt8} (first : 0xF0 ≤ a.toNat ∧ a.toNat ≤ 0xF4) (second : Further b)
    (third : Further c) (fourth : Further d) (needed : a.toNat = 0xF0 → 0x90 ≤ b.toNat)
    (bounded : a.toNat = 0xF4 → b.toNat ≤ 0x8F) : Sequence [a, b, c, d]

/-- One character after the other. -/
inductive WellFormed : List UInt8 → Prop where
  | nil : WellFormed []
  | append {front rest : List UInt8} (sequence : Sequence front) (further : WellFormed rest) :
    WellFormed (front ++ rest)

theorem further_ofNat {low : Nat} (small : low < 64) : Further (UInt8.ofNat (low + 0x80)) := by
  unfold Further
  rw [UInt8.toNat_ofNat_of_lt' (by simp only [UInt8.size]; omega)]
  omega

theorem sequence_utf8EncodeChar (c : Char) : Sequence (String.utf8EncodeChar c) := by
  have scalar : c.toNat < 0xD800 ∨ 0xDFFF < c.toNat ∧ c.toNat < 0x110000 := c.valid
  have value : ∀ {n : Nat}, n < 0x100 → (UInt8.ofNat n).toNat = n := UInt8.toNat_ofNat_of_lt'
  rw [utf8EncodeChar_eq]
  split
  · apply Sequence.one
    rw [value (by omega)]
    assumption
  · split
    · apply Sequence.two
      · rw [value (by omega)]
        omega
      · exact further_ofNat (by omega)
    · split
      · apply Sequence.three
        · rw [value (by omega)]
          omega
        · exact further_ofNat (by omega)
        · exact further_ofNat (by omega)
        · rw [value (by omega), value (by omega)]
          omega
        · rw [value (by omega), value (by omega)]
          omega
      · apply Sequence.four
        · rw [value (by omega)]
          omega
        · exact further_ofNat (by omega)
        · exact further_ofNat (by omega)
        · exact further_ofNat (by omega)
        · rw [value (by omega), value (by omega)]
          omega
        · rw [value (by omega), value (by omega)]
          omega

/-- A sequence is the encoding of the character whose bits its bytes hold. -/
theorem exists_utf8EncodeChar {bytes : List UInt8} (sequence : Sequence bytes) :
    ∃ c, String.utf8EncodeChar c = bytes := by
  cases sequence with
  | @one a first =>
    have valid : a.toNat.isValidChar := Or.inl (by omega)
    refine ⟨Char.ofNat a.toNat, ?_⟩
    rw [utf8EncodeChar_eq, toNat_ofNat valid, if_pos first, UInt8.ofNat_toNat]
  | @two a b first second =>
    unfold Further at second
    obtain ⟨n, sum⟩ : ∃ n, n = (a.toNat - 0xC0) * 64 + (b.toNat - 0x80) := ⟨_, rfl⟩
    have valid : n.isValidChar := Or.inl (by omega)
    refine ⟨Char.ofNat n, ?_⟩
    rw [utf8EncodeChar_eq, toNat_ofNat valid, if_neg (by omega), if_pos (by omega)]
    simp only [List.cons.injEq, ← UInt8.toNat_inj, UInt8.toNat_ofNat', and_true]
    omega
  | @three a b c first second third needed scalar =>
    unfold Further at second third
    obtain ⟨n, sum⟩ : ∃ n, n = (a.toNat - 0xE0) * 4096 + (b.toNat - 0x80) * 64 +
        (c.toNat - 0x80) := ⟨_, rfl⟩
    have valid : n.isValidChar := by
      unfold Nat.isValidChar
      omega
    refine ⟨Char.ofNat n, ?_⟩
    rw [utf8EncodeChar_eq, toNat_ofNat valid, if_neg (by omega), if_neg (by omega),
      if_pos (by omega)]
    simp only [List.cons.injEq, ← UInt8.toNat_inj, UInt8.toNat_ofNat', and_true]
    omega
  | @four a b c d first second third fourth needed bounded =>
    unfold Further at second third fourth
    obtain ⟨n, sum⟩ : ∃ n, n = (a.toNat - 0xF0) * 262144 + (b.toNat - 0x80) * 4096 +
        (c.toNat - 0x80) * 64 + (d.toNat - 0x80) := ⟨_, rfl⟩
    have valid : n.isValidChar := by
      unfold Nat.isValidChar
      omega
    refine ⟨Char.ofNat n, ?_⟩
    rw [utf8EncodeChar_eq, toNat_ofNat valid, if_neg (by omega), if_neg (by omega),
      if_neg (by omega)]
    simp only [List.cons.injEq, ← UInt8.toNat_inj, UInt8.toNat_ofNat', and_true]
    omega

/-- UTF-8 decodes exactly the bytes that are well-formed. -/
theorem wellFormed_iff {bytes : List UInt8} :
    WellFormed bytes ↔ ∃ text, Encoding.utf8.decode bytes = .ok text := by
  constructor
  · intro formed
    induction formed with
    | nil => exact ⟨[], Encoding.decode_nil _⟩
    | append sequence further ih =>
      obtain ⟨c, same⟩ := exists_utf8EncodeChar sequence
      obtain ⟨text, decoded⟩ := ih
      have whole : ∀ later, Encoding.utf8.decode (Encoding.utf8.encodeChar c ++ later) =
          Encoding.behind [c] (Encoding.utf8.size c) (Encoding.utf8.decode later) :=
        Encoding.decode_encodeChar_append trivial
      simp only [Encoding.encodeChar, same] at whole
      refine ⟨[c] ++ text, ?_⟩
      rw [whole, decoded, Encoding.behind_ok]
  · rintro ⟨text, decoded⟩
    rw [← (Encoding.encode_of_decode decoded).2]
    clear decoded
    induction text with
    | nil => exact WellFormed.nil
    | cons c text ih => exact WellFormed.append (sequence_utf8EncodeChar c) ih

end CardDeck.Utf8
