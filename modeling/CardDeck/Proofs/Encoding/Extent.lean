import CardDeck.Proofs.Encoding.Ascii
import CardDeck.Proofs.Encoding.WellFormed

set_option autoImplicit false

namespace CardDeck.Encoding

variable {encoding : Encoding} {bytes : List UInt8}

theorem decode_eq_ok_iff {text : Text} :
    encoding.decode bytes = .ok text ↔
      (∀ c ∈ text, encoding.Has c) ∧ encoding.encode text = bytes := by
  constructor
  · exact encode_of_decode
  · rintro ⟨has, rfl⟩
    exact decode_encode has

/-- Fewer bytes do not start a character that more of them do not start. -/
theorem char?_take {first : UInt8} (stuck : encoding.char? first bytes = none) (count : Nat) :
    encoding.char? first (bytes.take count) = none := by
  rw [Option.eq_none_iff_forall_ne_some]
  intro c there
  obtain ⟨has, encoded⟩ := char?_eq_some_iff.mp there
  have front : first :: bytes.take count <+: first :: bytes :=
    (List.prefix_append_right_inj [first]).mpr (List.take_prefix count bytes)
  have whole := char?_eq_some_iff.mpr ⟨has, encoded.trans front⟩
  rw [stuck] at whole
  cases whole

/-- A front of the bytes fails at the same byte as long as it holds that byte. -/
theorem decode_take_of_lt {offset size : Nat} (failed : encoding.decode bytes = .error offset)
    (beyond : offset < size) : encoding.decode (bytes.take size) = .error offset := by
  obtain ⟨front, text, first, back, rfl, rfl, decoded, stuck⟩ := decode_eq_error failed
  obtain ⟨more, rfl⟩ := Nat.exists_eq_add_of_lt beyond
  rw [Nat.add_assoc, List.take_length_add_append, List.take_succ_cons, decode_append decoded,
    decode_of_char?_none (char?_take stuck more)]
  rfl

/-- The bytes before the offset are the longest front of the bytes that is decoded. -/
structure Extent (encoding : Encoding) (bytes : List UInt8) (offset : Nat) : Prop where
  within : offset < bytes.length
  decoded : ∃ text, encoding.decode (bytes.take offset) = .ok text
  longest : ∀ size, offset < size → size ≤ bytes.length →
    ∃ place, encoding.decode (bytes.take size) = .error place

theorem extent_of_error {offset : Nat} (failed : encoding.decode bytes = .error offset) :
    encoding.Extent bytes offset := by
  obtain ⟨within, decoded⟩ := decode_take failed
  refine ⟨within, decoded, ?_⟩
  intro size beyond _
  exact ⟨offset, decode_take_of_lt failed beyond⟩

theorem decode_latin1 (bytes : List UInt8) :
    latin1.decode bytes = .ok (bytes.map fun byte => Char.ofNat byte.toNat) := by
  have code : ∀ byte : UInt8, (Char.ofNat byte.toNat).toNat = byte.toNat := by
    intro byte
    have bound := byte.toNat_lt
    exact Utf8.toNat_ofNat (Or.inl (by omega))
  rw [decode_eq_ok_iff]
  constructor
  · intro c member
    obtain ⟨byte, -, rfl⟩ := List.mem_map.mp member
    show (Char.ofNat byte.toNat).toNat < 0x100
    rw [code]
    exact byte.toNat_lt
  · induction bytes with
    | nil => rfl
    | cons byte bytes ih => simp [encodeChar, code, ih]

theorem decode_of_ascii {text : Text} (decoded : ascii.decode bytes = .ok text)
    (encoding : Encoding) : encoding.decode bytes = .ok text := by
  obtain ⟨has, same⟩ := decode_eq_ok_iff.mp decoded
  rw [decode_eq_ok_iff, encode_of_ascii encoding ascii has]
  exact ⟨fun c member => has_of_ascii encoding (has c member), same⟩

/-- Seven bits go no further than any other encoding does. -/
theorem ascii_error_le {offset : Nat} (failed : encoding.decode bytes = .error offset) :
    ∃ earlier ≤ offset, ascii.decode bytes = .error earlier := by
  cases outcome : ascii.decode bytes with
  | ok text =>
    have decoded := decode_of_ascii outcome encoding
    rw [failed] at decoded
    cases decoded
  | error earlier =>
    refine ⟨earlier, ?_, rfl⟩
    by_cases order : earlier ≤ offset
    · exact order
    · obtain ⟨within, text, front⟩ := decode_take outcome
      have decoded := decode_of_ascii front encoding
      rw [decode_take_of_lt failed (by omega)] at decoded
      cases decoded

/--
Decoding and encoding undo each other, decoding fails behind the longest front of the bytes that is
decoded, and it can be done in parts. In eight bits nothing fails; what is decoded in seven is the
same text in the others, and fails no later than UTF-8 does, which decodes what is well-formed.
-/
theorem decode_exact (encoding : Encoding) (bytes : List UInt8) :
    (∀ text, encoding.decode bytes = .ok text ↔
      (∀ c ∈ text, encoding.Has c) ∧ encoding.encode text = bytes) ∧
    (∀ offset, encoding.decode bytes = .error offset → encoding.Extent bytes offset) ∧
    (∀ more text later, encoding.decode bytes = .ok text → encoding.decode more = .ok later →
      encoding.decode (bytes ++ more) = .ok (text ++ later)) ∧
    (∃ text, latin1.decode bytes = .ok text) ∧
    (∀ text, ascii.decode bytes = .ok text →
      utf8.decode bytes = .ok text ∧ latin1.decode bytes = .ok text) ∧
    (∀ offset, utf8.decode bytes = .error offset →
      ∃ earlier ≤ offset, ascii.decode bytes = .error earlier) ∧
    ((∃ text, utf8.decode bytes = .ok text) ↔ Utf8.WellFormed bytes) := by
  refine ⟨fun _ => decode_eq_ok_iff, fun _ => extent_of_error, ?_, ⟨_, decode_latin1 bytes⟩, ?_,
    fun _ => ascii_error_le, Utf8.wellFormed_iff.symm⟩
  · intro more text later decoded further
    rw [decode_append decoded, further, behind_ok]
  · intro text decoded
    exact ⟨decode_of_ascii decoded utf8, decode_of_ascii decoded latin1⟩

/-- A character of two bytes, and then the bytes of a surrogate. -/
def surrogateBytes : List UInt8 := [0xC3, 0xA9, 0xED, 0xA0, 0x80]

theorem decode_exact_surrogate :
    (utf8.Extent surrogateBytes 2 ∧ ∃ earlier ≤ 2, ascii.decode surrogateBytes = .error earlier) ∧
    utf8.decode ([0xC3, 0xA9] ++ [0x58]) = .ok (['é'] ++ ['X']) ∧
    utf8.encode ['é'] = [0xC3, 0xA9] ∧ latin1.decode [0x58] = .ok ['X'] := by
  have wide : utf8.decode [0xC3, 0xA9] = .ok ['é'] :=
    decode_eq_ok_iff.mpr ⟨fun _ _ => trivial, by decide⟩
  have narrow : ascii.decode [0x58] = .ok ['X'] := by
    have low : ascii.Has 'X' := show 'X'.toNat < 0x80 by decide
    exact decode_eq_ok_iff.mpr ⟨List.forall_mem_singleton.mpr low, by decide⟩
  have broken : utf8.decode surrogateBytes = .error 2 := by
    have stuck : utf8.char? 0xED [0xA0, 0x80] = none := by decide
    have whole := decode_append wide [0xED, 0xA0, 0x80]
    rw [decode_of_char?_none stuck] at whole
    exact whole
  obtain ⟨-, extent, -, -, -, earlier, -⟩ := decode_exact utf8 surrogateBytes
  obtain ⟨encoded, -, parts, -⟩ := decode_exact utf8 [0xC3, 0xA9]
  obtain ⟨-, -, -, -, same, -⟩ := decode_exact ascii [0x58]
  exact ⟨⟨extent 2 broken, earlier 2 broken⟩, parts _ _ _ wide (same _ narrow).1,
    ((encoded _).mp wide).2, (same _ narrow).2⟩

end CardDeck.Encoding
