import CardDeck.Feed.Source
import CardDeck.Proofs.Encoding.Law

set_option autoImplicit false

namespace CardDeck

/-- A character of seven bits. -/
def IsAscii (c : Char) : Prop := c.toNat < 0x80

instance (c : Char) : Decidable (IsAscii c) := inferInstanceAs (Decidable (_ < _))

namespace Encoding

theorem has_of_ascii (encoding : Encoding) {c : Char} (ascii : IsAscii c) : encoding.Has c := by
  cases encoding with
  | utf8 => trivial
  | ascii => exact ascii
  | latin1 => exact Nat.lt_trans ascii (by decide)

theorem encodeChar_of_ascii (encoding : Encoding) {c : Char} (ascii : IsAscii c) :
    encoding.encodeChar c = [UInt8.ofNat c.toNat] := by
  cases encoding with
  | utf8 => exact (Utf8.utf8EncodeChar_eq c).trans (if_pos (Nat.le_of_lt_succ ascii))
  | ascii | latin1 => rfl

theorem encode_of_ascii (encoding other : Encoding) {text : Text} (ascii : ∀ c ∈ text, IsAscii c) :
    encoding.encode text = other.encode text := by
  induction text with
  | nil => rfl
  | cons c text ih =>
    have first := ascii c List.mem_cons_self
    rw [encode_cons, encode_cons, encodeChar_of_ascii _ first, encodeChar_of_ascii _ first,
      ih fun d member => ascii d (List.mem_cons_of_mem c member)]

theorem toNat_of_mem_utf8 {byte : UInt8} {c : Char} (low : byte.toNat < 0x80)
    (member : byte ∈ String.utf8EncodeChar c) : c.toNat = byte.toNat := by
  have valid : c.toNat < 0x110000 := by
    have bounds : c.toNat < 0xD800 ∨ 0xDFFF < c.toNat ∧ c.toNat < 0x110000 := c.valid
    omega
  rw [Utf8.utf8EncodeChar_eq] at member
  split at member
  · have code := congrArg UInt8.toNat (List.mem_singleton.mp member)
    rw [UInt8.toNat_ofNat'] at code
    omega
  -- all bytes of a longer form are from 0x80 on
  all_goals
    exfalso
    simp only [apply_ite (byte ∈ ·), List.mem_cons, List.not_mem_nil, or_false,
      ← UInt8.toNat_inj, UInt8.toNat_ofNat'] at member
    split at member
    · omega
    · split at member <;> omega

theorem toNat_of_mem_encodeChar {encoding : Encoding} {byte : UInt8} {c : Char}
    (low : byte.toNat < 0x80) (has : encoding.Has c) (member : byte ∈ encoding.encodeChar c) :
    c.toNat = byte.toNat := by
  cases encoding with
  | utf8 => exact toNat_of_mem_utf8 low member
  | ascii | latin1 =>
    have code := congrArg UInt8.toNat (List.mem_singleton.mp member)
    rw [UInt8.toNat_ofNat'] at code
    simp only [Has] at has
    omega

theorem decode_ascii_append (encoding : Encoding) {c : Char} (ascii : IsAscii c)
    (bytes : List UInt8) :
    encoding.decode (UInt8.ofNat c.toNat :: bytes) = behind [c] 1 (encoding.decode bytes) := by
  have single := encoding.encodeChar_of_ascii ascii
  have size : encoding.size c = 1 := by rw [← encodeChar_length, single, List.length_singleton]
  have whole := decode_encodeChar_append (encoding.has_of_ascii ascii) bytes
  rwa [single, size] at whole

/-- Where no character starts, none starts either with a byte of seven bits and more behind it. -/
theorem char?_append_low {encoding : Encoding} {first byte : UInt8} {bytes : List UInt8}
    (stuck : encoding.char? first bytes = none) (low : byte.toNat < 0x80) (rest : List UInt8) :
    encoding.char? first (bytes ++ byte :: rest) = none := by
  rw [Option.eq_none_iff_forall_ne_some]
  intro c there
  obtain ⟨has, encoded⟩ := char?_eq_some_iff.mp there
  have short : encoding.encodeChar c <+: first :: bytes := by
    rcases List.prefix_or_prefix_of_prefix encoded (List.prefix_append (first :: bytes) _) with
      within | ⟨more, beyond⟩
    · exact within
    · cases more with
      | nil => exact ⟨[], by rw [List.append_nil, ← beyond, List.append_nil]⟩
      | cons other more =>
        rw [← beyond, ← List.cons_append, List.prefix_append_right_inj] at encoded
        obtain ⟨after, same⟩ := encoded
        have member : byte ∈ encoding.encodeChar c := by
          rw [← beyond, (List.cons.inj same).1]
          exact List.mem_append_right _ List.mem_cons_self
        have ascii : IsAscii c := by
          rw [IsAscii, toNat_of_mem_encodeChar low has member]
          exact low
        rw [encodeChar_of_ascii _ ascii] at beyond
        have length := congrArg List.length beyond
        simp at length
  rw [char?_eq_some_iff.mpr ⟨has, short⟩] at stuck
  cases stuck

theorem decode_append_low_error {encoding : Encoding} {bytes : List UInt8} {offset : Nat}
    (failed : encoding.decode bytes = .error offset) {byte : UInt8} (low : byte.toNat < 0x80)
    (rest : List UInt8) : encoding.decode (bytes ++ byte :: rest) = .error offset := by
  obtain ⟨front, text, first, back, rfl, rfl, decoded, stuck⟩ := decode_eq_error failed
  rw [List.append_assoc, decode_append decoded, List.cons_append,
    decode_of_char?_none (char?_append_low stuck low rest)]
  rfl

@[simp] theorem encodeChar_newline (encoding : Encoding) :
    encoding.encodeChar '\n' = [newline] := encoding.encodeChar_of_ascii (by decide)

/-- Bytes without a newline decode to a text without one. -/
theorem plain_of_decode {encoding : Encoding} {line : List UInt8} {text : Text}
    (decoded : encoding.decode line = .ok text) (plain : newline ∉ line) : '\n' ∉ text := by
  intro member
  rw [← (encode_of_decode decoded).2] at plain
  apply plain
  apply List.mem_flatMap.mpr
  exact ⟨'\n', member, by rw [encodeChar_newline]; exact List.mem_singleton_self _⟩

theorem decode_line {encoding : Encoding} {line : List UInt8} {text : Text}
    (decoded : encoding.decode line = .ok text) (rest : List UInt8) :
    encoding.decode (line ++ newline :: rest) =
      behind (text ++ ['\n']) (line.length + 1) (encoding.decode rest) := by
  have ended := encoding.decode_ascii_append (c := '\n') (by decide) rest
  rw [decode_append decoded, ← behind_behind, ← ended]
  rfl

end Encoding

end CardDeck
