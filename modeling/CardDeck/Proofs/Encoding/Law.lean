import CardDeck.Encoding

set_option autoImplicit false

namespace CardDeck.Encoding

/-- The characters that an encoding has. -/
def Has : Encoding → Char → Prop
  | utf8, _ => True
  | ascii, c => c.toNat < 0x80
  | latin1, c => c.toNat < 0x100

theorem ofNat_toNat_eq_iff {first : UInt8} {bytes : List UInt8} {c : Char} :
    Char.ofNat first.toNat = c ↔
      c.toNat < 0x100 ∧ [UInt8.ofNat c.toNat] <+: first :: bytes := by
  have bound := first.toNat_lt
  have valid : first.toNat.isValidChar := Or.inl (by omega)
  constructor
  · rintro rfl
    rw [Utf8.toNat_ofNat valid, UInt8.ofNat_toNat]
    exact ⟨bound, bytes, rfl⟩
  · rintro ⟨small, rest, same⟩
    have front : UInt8.ofNat c.toNat = first := (List.cons.inj same).1
    rw [← front, UInt8.toNat_ofNat', Nat.mod_eq_of_lt small, Char.ofNat_toNat]

/-- Bytes start with a character exactly if they start with the bytes that encode it. -/
theorem char?_eq_some_iff {encoding : Encoding} {first : UInt8} {bytes : List UInt8} {c : Char} :
    encoding.char? first bytes = some c ↔
      encoding.Has c ∧ encoding.encodeChar c <+: first :: bytes := by
  cases encoding with
  | utf8 =>
    constructor
    · intro there
      exact ⟨trivial, Utf8.utf8EncodeChar_prefix_of_char? there⟩
    · rintro ⟨-, rest, encoded⟩
      exact Utf8.char?_of_utf8EncodeChar_append encoded
  | ascii =>
    have bound := first.toNat_lt
    have valid : first.toNat.isValidChar := Or.inl (by omega)
    simp only [char?, Has, encodeChar]
    constructor
    · intro there
      split at there
      · rename_i small
        obtain rfl := Option.some.inj there
        rw [Utf8.toNat_ofNat valid]
        exact ⟨small, by rw [UInt8.ofNat_toNat]; exact ⟨bytes, rfl⟩⟩
      · cases there
    · rintro ⟨small, encoded⟩
      have same : Char.ofNat first.toNat = c :=
        ofNat_toNat_eq_iff.mpr ⟨by omega, encoded⟩
      rw [← same, Utf8.toNat_ofNat valid] at small
      rw [if_pos small, same]
  | latin1 =>
    simp only [char?, Has, encodeChar, Option.some.injEq]
    exact ofNat_toNat_eq_iff

theorem encodeChar_ne_nil (encoding : Encoding) (c : Char) : encoding.encodeChar c ≠ [] := by
  rw [← List.length_pos_iff, encodeChar_length]
  exact encoding.size_pos c

/-- The outcome of decoding behind a text that takes so many bytes. -/
def behind (text : Text) (size : Nat) : Except Nat Text → Except Nat Text
  | .ok later => .ok (text ++ later)
  | .error offset => .error (size + offset)

@[simp] theorem behind_ok (text : Text) (size : Nat) (later : Text) :
    behind text size (.ok later) = .ok (text ++ later) := rfl

@[simp] theorem behind_error (text : Text) (size offset : Nat) :
    behind text size (.error offset) = .error (size + offset) := rfl

@[simp] theorem behind_nil (outcome : Except Nat Text) : behind [] 0 outcome = outcome := by
  cases outcome <;> simp

@[simp] theorem behind_behind (front back : Text) (size more : Nat) (outcome : Except Nat Text) :
    behind front size (behind back more outcome) =
      behind (front ++ back) (size + more) outcome := by
  cases outcome with
  | ok later => simp
  | error offset => simp [Nat.add_assoc]

theorem behind_eq_ok {text whole : Text} {size : Nat} {outcome : Except Nat Text}
    (done : behind text size outcome = .ok whole) :
    ∃ later, outcome = .ok later ∧ whole = text ++ later := by
  cases outcome with
  | ok later => exact ⟨later, rfl, (Except.ok.inj done).symm⟩
  | error offset => cases done

theorem behind_eq_error {text : Text} {size offset : Nat} {outcome : Except Nat Text}
    (failed : behind text size outcome = .error offset) :
    ∃ later, outcome = .error later ∧ offset = size + later := by
  cases outcome with
  | ok later => cases failed
  | error later => exact ⟨later, rfl, (Except.error.inj failed).symm⟩

theorem decode_encodeChar_append {encoding : Encoding} {c : Char} (has : encoding.Has c)
    (bytes : List UInt8) :
    encoding.decode (encoding.encodeChar c ++ bytes) =
      behind [c] (encoding.size c) (encoding.decode bytes) := by
  obtain ⟨first, more, same⟩ := List.exists_cons_of_ne_nil (encoding.encodeChar_ne_nil c)
  have length : more.length = encoding.size c - 1 := by
    rw [← encodeChar_length, same, List.length_cons, Nat.add_sub_cancel]
  have front : encoding.char? first (more ++ bytes) = some c := by
    rw [char?_eq_some_iff, ← List.cons_append, ← same]
    exact ⟨has, List.prefix_append _ _⟩
  rw [same, List.cons_append, decode, front]
  dsimp only
  rw [← length, List.drop_left]
  cases encoding.decode bytes <;> rfl

theorem decode_of_char?_none {encoding : Encoding} {first : UInt8} {bytes : List UInt8}
    (stuck : encoding.char? first bytes = none) :
    encoding.decode (first :: bytes) = .error 0 := by
  rw [decode, stuck]

/-- Bytes are used up, or no character starts there, or one does and the rest is left. -/
@[elab_as_elim]
theorem decode_induction (encoding : Encoding) {motive : List UInt8 → Prop}
    (nil : motive [])
    (stuck : ∀ first bytes, encoding.char? first bytes = none → motive (first :: bytes))
    (char : ∀ c bytes, encoding.Has c → motive bytes → motive (encoding.encodeChar c ++ bytes))
    (bytes : List UInt8) : motive bytes := by
  induction length : bytes.length using Nat.strongRecOn generalizing bytes with
  | ind size ih =>
    cases bytes with
    | nil => exact nil
    | cons first bytes =>
      cases front : encoding.char? first bytes with
      | none => exact stuck first bytes front
      | some c =>
        obtain ⟨has, rest, same⟩ := char?_eq_some_iff.mp front
        rw [← same] at length ⊢
        rw [List.length_append, encodeChar_length] at length
        have positive := encoding.size_pos c
        exact char c rest has (ih rest.length (by omega) rest rfl)

/-- Decoding goes on behind bytes that are decoded. -/
theorem decode_append {encoding : Encoding} {front : List UInt8} {text : Text}
    (decoded : encoding.decode front = .ok text) (back : List UInt8) :
    encoding.decode (front ++ back) = behind text front.length (encoding.decode back) := by
  induction front using encoding.decode_induction generalizing text with
  | nil =>
    rw [decode_nil] at decoded
    obtain rfl := Except.ok.inj decoded
    simp
  | stuck first bytes none =>
    rw [decode_of_char?_none none] at decoded
    cases decoded
  | char c bytes has ih =>
    rw [decode_encodeChar_append has] at decoded
    obtain ⟨later, further, rfl⟩ := behind_eq_ok decoded
    rw [List.append_assoc, decode_encodeChar_append has, ih further, behind_behind,
      List.length_append, encodeChar_length]

/-- Bytes decode to a text of characters that the encoding has, and are the ones that encode it. -/
theorem encode_of_decode {encoding : Encoding} {bytes : List UInt8} {text : Text}
    (decoded : encoding.decode bytes = .ok text) :
    (∀ c ∈ text, encoding.Has c) ∧ encoding.encode text = bytes := by
  induction bytes using encoding.decode_induction generalizing text with
  | nil =>
    rw [decode_nil] at decoded
    obtain rfl := Except.ok.inj decoded
    exact ⟨by simp, rfl⟩
  | stuck first bytes none =>
    rw [decode_of_char?_none none] at decoded
    cases decoded
  | char c bytes has ih =>
    rw [decode_encodeChar_append has] at decoded
    obtain ⟨later, further, rfl⟩ := behind_eq_ok decoded
    obtain ⟨all, same⟩ := ih further
    refine ⟨?_, ?_⟩
    · intro d member
      rcases List.mem_cons.mp member with here | there
      · exact here ▸ has
      · exact all d there
    · rw [List.singleton_append, encode_cons, same]

theorem decode_encode {encoding : Encoding} {text : Text} (has : ∀ c ∈ text, encoding.Has c) :
    encoding.decode (encoding.encode text) = .ok text := by
  induction text with
  | nil => exact encoding.decode_nil
  | cons c text ih =>
    rw [encode_cons, decode_encodeChar_append (has c List.mem_cons_self),
      ih fun d member => has d (List.mem_cons_of_mem c member)]
    rfl

/-- Decoding fails where the bytes before are decoded and no character starts. -/
theorem decode_eq_error {encoding : Encoding} {bytes : List UInt8} {offset : Nat}
    (failed : encoding.decode bytes = .error offset) :
    ∃ front text first back, bytes = front ++ first :: back ∧ front.length = offset ∧
      encoding.decode front = .ok text ∧ encoding.char? first back = none := by
  induction bytes using encoding.decode_induction generalizing offset with
  | nil =>
    rw [decode_nil] at failed
    cases failed
  | stuck first bytes none =>
    rw [decode_of_char?_none none] at failed
    exact ⟨[], [], first, bytes, rfl, Except.error.inj failed, decode_nil encoding, none⟩
  | char c bytes has ih =>
    rw [decode_encodeChar_append has] at failed
    obtain ⟨later, further, rfl⟩ := behind_eq_error failed
    obtain ⟨front, text, first, back, rfl, rfl, decoded, none⟩ := ih further
    refine ⟨encoding.encodeChar c ++ front, c :: text, first, back, ?_, ?_, ?_, none⟩
    · rw [List.append_assoc]
    · rw [List.length_append, encodeChar_length]
    · rw [decode_encodeChar_append has, decoded]
      rfl

theorem decode_take {encoding : Encoding} {bytes : List UInt8} {offset : Nat}
    (failed : encoding.decode bytes = .error offset) :
    offset < bytes.length ∧ ∃ text, encoding.decode (bytes.take offset) = .ok text := by
  obtain ⟨front, text, first, back, rfl, rfl, decoded, -⟩ := decode_eq_error failed
  rw [List.take_left, List.length_append, List.length_cons]
  exact ⟨by omega, text, decoded⟩

end CardDeck.Encoding
