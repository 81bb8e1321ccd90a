import CardDeck.Encoding.Utf8

set_option autoImplicit false

namespace CardDeck

inductive Encoding where
  | utf8
  /-- Seven bits; a byte from 128 on encodes nothing. -/
  | ascii
  /-- Each byte is the code point of its character. -/
  | latin1
deriving DecidableEq, Repr

structure UnknownEncoding where
  name : Text
deriving DecidableEq, Repr

def UnknownEncoding.message (unknown : UnknownEncoding) : Text :=
  "Unknown encoding: ".toList ++ unknown.name

namespace Encoding

def name : Encoding → Text
  | utf8 => "UTF-8".toList
  | ascii => "ASCII".toList
  | latin1 => "ISO-8859-1".toList

/-- Names are compared without regard to letter case, hyphens and underscores. -/
def normalName (name : Text) : Text :=
  (name.map Char.toLower).filter fun c => c != '-' && c != '_'

def ofName (name : Text) : Except UnknownEncoding Encoding :=
  let normal := normalName name
  if normal = "utf8".toList then .ok utf8
  else if normal = "ascii".toList ∨ normal = "usascii".toList then .ok ascii
  else if normal = "latin1".toList ∨ normal = "iso88591".toList then .ok latin1
  else .error ⟨name⟩

theorem ofName_name (encoding : Encoding) : ofName encoding.name = .ok encoding := by
  cases encoding <;> rfl

/-- The character that a first byte and the bytes after it start with. -/
def char? : Encoding → UInt8 → List UInt8 → Option Char
  | utf8, first, bytes => Utf8.char? first bytes
  | ascii, first, _ => if first.toNat < 0x80 then some (Char.ofNat first.toNat) else none
  | latin1, first, _ => some (Char.ofNat first.toNat)

def size : Encoding → Char → Nat
  | utf8, c => c.utf8Size
  | ascii, _ | latin1, _ => 1

theorem size_pos (encoding : Encoding) (c : Char) : 0 < encoding.size c := by
  cases encoding
  · exact c.utf8Size_pos
  all_goals exact Nat.one_pos

/-- The text that the bytes encode, or the offset of the first byte that encodes nothing. -/
def decode (encoding : Encoding) : List UInt8 → Except Nat Text
  | [] => .ok []
  | first :: bytes =>
    match encoding.char? first bytes with
    | none => .error 0
    | some c =>
      match decode encoding (bytes.drop (encoding.size c - 1)) with
      | .ok text => .ok (c :: text)
      | .error offset => .error (encoding.size c + offset)
termination_by bytes => bytes.length
decreasing_by simp only [List.length_drop, List.length_cons]; omega

@[simp] theorem decode_nil (encoding : Encoding) : encoding.decode [] = .ok [] := by
  rw [decode]

/-- The bytes of a character; below UTF-8 only the code points that fit into a byte have one. -/
def encodeChar : Encoding → Char → List UInt8
  | utf8, c => String.utf8EncodeChar c
  | ascii, c | latin1, c => [UInt8.ofNat c.toNat]

@[simp] theorem encodeChar_length (encoding : Encoding) (c : Char) :
    (encoding.encodeChar c).length = encoding.size c := by
  cases encoding
  · exact String.length_utf8EncodeChar c
  all_goals rfl

def encode (encoding : Encoding) (text : Text) : List UInt8 := text.flatMap encoding.encodeChar

@[simp] theorem encode_nil (encoding : Encoding) : encoding.encode [] = [] := rfl

@[simp] theorem encode_cons (encoding : Encoding) (c : Char) (text : Text) :
    encoding.encode (c :: text) = encoding.encodeChar c ++ encoding.encode text := rfl

@[simp] theorem encode_append (encoding : Encoding) (front back : Text) :
    encoding.encode (front ++ back) = encoding.encode front ++ encoding.encode back :=
  List.flatMap_append

end Encoding

end CardDeck
