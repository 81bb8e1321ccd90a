import CardDeck.Text.Basic

set_option autoImplicit false

namespace CardDeck.Utf8

/-- What a first byte announces. -/
structure Lead where
  count : Nat
  high : Nat
  /-- Least code point that needs so many bytes. -/
  least : Nat
deriving DecidableEq, Repr

def lead? (byte : UInt8) : Option Lead :=
  let n := byte.toNat
  if n < 0x80 then some ⟨0, n, 0⟩
  else if n < 0xC0 then none
  else if n < 0xE0 then some ⟨1, n - 0xC0, 0x80⟩
  else if n < 0xF0 then some ⟨2, n - 0xE0, 0x800⟩
  else if n < 0xF8 then some ⟨3, n - 0xF0, 0x10000⟩
  else none

/-- Extends the high bits by the low bits of `count` further bytes. -/
def codePoint? (high : Nat) : Nat → List UInt8 → Option Nat
  | 0, _ => some high
  | _ + 1, [] => none
  | count + 1, byte :: bytes =>
    if 0x80 ≤ byte.toNat ∧ byte.toNat < 0xC0 then
      codePoint? (high * 64 + (byte.toNat - 0x80)) count bytes
    else
      none

/-- The character that a first byte and the bytes after it start with. -/
def char? (first : UInt8) (bytes : List UInt8) : Option Char :=
  match lead? first with
  | none => none
  | some lead =>
    match codePoint? lead.high lead.count bytes with
    | none => none
    | some n => if lead.least ≤ n ∧ n.isValidChar then some (Char.ofNat n) else none

theorem lead?_eq_some {first : UInt8} {lead : Lead} (led : lead? first = some lead) :
    (first.toNat < 0x80 ∧ lead = ⟨0, first.toNat, 0⟩) ∨
    (0xC0 ≤ first.toNat ∧ first.toNat < 0xE0 ∧ lead = ⟨1, first.toNat - 0xC0, 0x80⟩) ∨
    (0xE0 ≤ first.toNat ∧ first.toNat < 0xF0 ∧ lead = ⟨2, first.toNat - 0xE0, 0x800⟩) ∨
    (0xF0 ≤ first.toNat ∧ first.toNat < 0xF8 ∧ lead = ⟨3, first.toNat - 0xF0, 0x10000⟩) := by
  simp only [lead?] at led
  split at led
  · exact Or.inl ⟨by omega, (Option.some.inj led).symm⟩
  · split at led
    · cases led
    · split at led
      · exact Or.inr (Or.inl ⟨by omega, by omega, (Option.some.inj led).symm⟩)
      · split at led
        · exact Or.inr (Or.inr (Or.inl ⟨by omega, by omega, (Option.some.inj led).symm⟩))
        · split at led
          · exact Or.inr (Or.inr (Or.inr ⟨by omega, by omega, (Option.some.inj led).symm⟩))
          · cases led

theorem codePoint?_succ_eq_some {high count n : Nat} {bytes : List UInt8}
    (found : codePoint? high (count + 1) bytes = some n) :
    ∃ byte rest, bytes = byte :: rest ∧ 0x80 ≤ byte.toNat ∧ byte.toNat < 0xC0 ∧
      codePoint? (high * 64 + (byte.toNat - 0x80)) count rest = some n := by
  cases bytes with
  | nil => cases found
  | cons byte rest =>
    simp only [codePoint?] at found
    split at found
    next further => exact ⟨byte, rest, rfl, further.1, further.2, found⟩
    · cases found

theorem codePoint?_ofNat {high count low : Nat} (rest : List UInt8) (small : low < 64) :
    codePoint? high (count + 1) (UInt8.ofNat (low + 0x80) :: rest) =
      codePoint? (high * 64 + low) count rest := by
  have value : (UInt8.ofNat (low + 0x80)).toNat = low + 0x80 := by
    rw [UInt8.toNat_ofNat', Nat.mod_eq_of_lt (by omega)]
  rw [codePoint?, value, if_pos (by omega), Nat.add_sub_cancel]

theorem toNat_ofNat {n : Nat} (valid : n.isValidChar) : (Char.ofNat n).toNat = n := by
  rw [Char.ofNat, dif_pos valid]
  rfl

/-- The encoding of a character in arithmetic terms. -/
theorem utf8EncodeChar_eq (c : Char) :
    String.utf8EncodeChar c =
      if c.toNat ≤ 0x7F then
        [UInt8.ofNat c.toNat]
      else if c.toNat ≤ 0x7FF then
        [UInt8.ofNat (c.toNat / 64 % 32 + 0xC0), UInt8.ofNat (c.toNat % 64 + 0x80)]
      else if c.toNat ≤ 0xFFFF then
        [UInt8.ofNat (c.toNat / 4096 % 16 + 0xE0), UInt8.ofNat (c.toNat / 64 % 64 + 0x80),
          UInt8.ofNat (c.toNat % 64 + 0x80)]
      else
        [UInt8.ofNat (c.toNat / 262144 % 8 + 0xF0), UInt8.ofNat (c.toNat / 4096 % 64 + 0x80),
          UInt8.ofNat (c.toNat / 64 % 64 + 0x80), UInt8.ofNat (c.toNat % 64 + 0x80)] := rfl

theorem utf8EncodeChar_prefix_of_char? {first : UInt8} {bytes : List UInt8} {c : Char}
    (there : char? first bytes = some c) : String.utf8EncodeChar c <+: first :: bytes := by
  have bound := first.toNat_lt
  simp only [char?] at there
  split at there
  · cases there
  next lead led =>
    split at there
    · cases there
    next n found =>
      split at there
      case isFalse => cases there
      next fits =>
        cases there
        rw [utf8EncodeChar_eq, toNat_ofNat fits.2]
        have least := fits.1
        rcases lead?_eq_some led with ⟨high, rfl⟩ | ⟨low, high, rfl⟩ | ⟨low, high, rfl⟩ |
          ⟨low, high, rfl⟩
        · obtain rfl := Option.some.inj found
          dsimp only
          rw [if_pos (by omega), UInt8.ofNat_toNat]
          exact ⟨bytes, rfl⟩
        · obtain ⟨a, rest, rfl, _, _, found⟩ := codePoint?_succ_eq_some found
          obtain rfl := Option.some.inj found
          dsimp only at least ⊢
          rw [if_neg (by omega), if_pos (by omega)]
          refine ⟨rest, ?_⟩
          simp only [List.cons_append, List.nil_append, List.cons.injEq, ← UInt8.toNat_inj,
            UInt8.toNat_ofNat', and_true]
          omega
        · obtain ⟨a, rest, rfl, _, _, found⟩ := codePoint?_succ_eq_some found
          obtain ⟨b, rest, rfl, _, _, found⟩ := codePoint?_succ_eq_some found
          obtain rfl := Option.some.inj found
          dsimp only at least ⊢
          rw [if_neg (by omega), if_neg (by omega), if_pos (by omega)]
          refine ⟨rest, ?_⟩
          simp only [List.cons_append, List.nil_append, List.cons.injEq, ← UInt8.toNat_inj,
            UInt8.toNat_ofNat', and_true]
          omega
        · obtain ⟨a, rest, rfl, _, _, found⟩ := codePoint?_succ_eq_some found
          obtain ⟨b, rest, rfl, _, _, found⟩ := codePoint?_succ_eq_some found
          obtain ⟨d, rest, rfl, _, _, found⟩ := codePoint?_succ_eq_some found
          obtain rfl := Option.some.inj found
          dsimp only at least ⊢
          rw [if_neg (by omega), if_neg (by omega), if_neg (by omega)]
          refine ⟨rest, ?_⟩
          simp only [List.cons_append, List.nil_append, List.cons.injEq, ← UInt8.toNat_inj,
            UInt8.toNat_ofNat', and_true]
          omega

theorem char?_eq_some {first : UInt8} {bytes : List UInt8} (lead : Lead) {c : Char}
    (led : lead? first = some lead) (found : codePoint? lead.high lead.count bytes = some c.toNat)
    (least : lead.least ≤ c.toNat) : char? first bytes = some c := by
  have valid : c.toNat.isValidChar := c.valid
  simp only [char?, led, found]
  rw [if_pos ⟨least, valid⟩, Char.ofNat_toNat]

theorem char?_of_utf8EncodeChar_append {c : Char} {first : UInt8} {bytes rest : List UInt8}
    (encoded : String.utf8EncodeChar c ++ rest = first :: bytes) : char? first bytes = some c := by
  have valid : c.toNat < 0x110000 := by
    have bounds : c.toNat < 0xD800 ∨ 0xDFFF < c.toNat ∧ c.toNat < 0x110000 := c.valid
    omega
  rw [utf8EncodeChar_eq] at encoded
  split at encoded
  · simp only [List.cons_append, List.nil_append, List.cons.injEq] at encoded
    obtain ⟨rfl, rfl⟩ := encoded
    have value : (UInt8.ofNat c.toNat).toNat = c.toNat := by
      rw [UInt8.toNat_ofNat', Nat.mod_eq_of_lt (by omega)]
    refine char?_eq_some ⟨0, c.toNat, 0⟩ ?_ rfl (Nat.zero_le _)
    simp only [lead?, value]
    rw [if_pos (by omega)]
  · split at encoded
    · simp only [List.cons_append, List.nil_append, List.cons.injEq] at encoded
      obtain ⟨rfl, rfl⟩ := encoded
      have value : (UInt8.ofNat (c.toNat / 64 % 32 + 0xC0)).toNat = c.toNat / 64 % 32 + 0xC0 := by
        rw [UInt8.toNat_ofNat', Nat.mod_eq_of_lt (by omega)]
      refine char?_eq_some ⟨1, c.toNat / 64 % 32, 0x80⟩ ?_ ?_ (by dsimp only; omega)
      · simp only [lead?, value, Nat.add_sub_cancel]
        rw [if_neg (by omega), if_neg (by omega), if_pos (by omega)]
      · rw [codePoint?_ofNat _ (by omega), codePoint?]
        dsimp only
        congr 1
        omega
    · split at encoded
      · simp only [List.cons_append, List.nil_append, List.cons.injEq] at encoded
        obtain ⟨rfl, rfl⟩ := encoded
        have value : (UInt8.ofNat (c.toNat / 4096 % 16 + 0xE0)).toNat =
            c.toNat / 4096 % 16 + 0xE0 := by
          rw [UInt8.toNat_ofNat', Nat.mod_eq_of_lt (by omega)]
        refine char?_eq_some ⟨2, c.toNat / 4096 % 16, 0x800⟩ ?_ ?_ (by dsimp only; omega)
        · simp only [lead?, value, Nat.add_sub_cancel]
          rw [if_neg (by omega), if_neg (by omega), if_neg (by omega), if_pos (by omega)]
        · rw [codePoint?_ofNat _ (by omega), codePoint?_ofNat _ (by omega), codePoint?]
          dsimp only
          congr 1
          omega
      · simp only [List.cons_append, List.nil_append, List.cons.injEq] at encoded
        obtain ⟨rfl, rfl⟩ := encoded
        have value : (UInt8.ofNat (c.toNat / 262144 % 8 + 0xF0)).toNat =
            c.toNat / 262144 % 8 + 0xF0 := by
          rw [UInt8.toNat_ofNat', Nat.mod_eq_of_lt (by omega)]
        refine char?_eq_some ⟨3, c.toNat / 262144 % 8, 0x10000⟩ ?_ ?_
          (by dsimp only; omega)
        · simp only [lead?, value, Nat.add_sub_cancel]
          rw [if_neg (by omega), if_neg (by omega), if_neg (by omega), if_neg (by omega),
            if_pos (by omega)]
        · rw [codePoint?_ofNat _ (by omega), codePoint?_ofNat _ (by omega),
            codePoint?_ofNat _ (by omega), codePoint?]
          dsimp only
          congr 1
          omega

end CardDeck.Utf8
