set_option autoImplicit false

namespace CardDeck

/-- First and last code points of the ranges of the Unicode property White_Space. -/
def whiteRanges : List (Nat × Nat) :=
  [(0x09, 0x0D), (0x20, 0x20), (0x85, 0x85), (0xA0, 0xA0), (0x1680, 0x1680), (0x2000, 0x200A),
    (0x2028, 0x2029), (0x202F, 0x202F), (0x205F, 0x205F), (0x3000, 0x3000)]

/-- A character is white when its code point lies in one of the White_Space ranges. -/
def isWhite (c : Char) : Bool :=
  whiteRanges.any fun range => range.1 ≤ c.toNat && c.toNat ≤ range.2

theorem isWhite_space : isWhite ' ' = true := by decide

theorem isWhite_of_graphic {c : Char} (first : 0x20 < c.toNat) (last : c.toNat < 0x7F) :
    isWhite c = false := by
  rw [Bool.eq_false_iff]
  intro white
  obtain ⟨range, member, inside⟩ := List.any_eq_true.mp white
  simp only [whiteRanges, List.mem_cons, List.not_mem_nil, or_false] at member
  simp only [Bool.and_eq_true, decide_eq_true_eq] at inside
  rcases member with rfl | rfl | rfl | rfl | rfl | rfl | rfl | rfl | rfl | rfl <;> omega

abbrev Text := List Char

namespace Text

def trimStart (text : Text) : Text := text.dropWhile isWhite

def trimEnd (text : Text) : Text := (text.reverse.dropWhile isWhite).reverse

def trim (text : Text) : Text := trimEnd (trimStart text)

/-- Leaves out one carriage return that ends the text. -/
def dropFinalReturn (text : Text) : Text :=
  if text.getLast? = some '\r' then text.dropLast else text

theorem dropFinalReturn_concat (text : Text) : dropFinalReturn (text ++ ['\r']) = text := by
  simp [dropFinalReturn]

theorem dropFinalReturn_of_ne (text : Text) (other : text.getLast? ≠ some '\r') :
    dropFinalReturn text = text := if_neg other

end Text

namespace Decimal

def text (n : Nat) : Text := Nat.toDigits 10 n

theorem isDigit_of_mem_text {n : Nat} {c : Char} (digit : c ∈ text n) : c.isDigit = true :=
  Nat.isDigit_of_mem_toDigits (by decide) (by decide) digit

def value (digits : Text) : Nat := Nat.ofDigitChars 10 digits 0

@[simp] theorem value_text (n : Nat) : value (text n) = n := Nat.ofDigitChars_ten_toDigits

theorem text_inj {m n : Nat} : text m = text n ↔ m = n := by
  refine ⟨fun same => ?_, fun same => same ▸ rfl⟩
  rw [← value_text m, same, value_text]

/-- Reads one or more digits, after at most one plus sign, as a number below `2 ^ 64`. -/
def read64? (input : Text) : Option UInt64 :=
  let digits := if input.head? = some '+' then input.tail else input
  if !digits.isEmpty && digits.all Char.isDigit && value digits < UInt64.size then
    some (UInt64.ofNat (value digits))
  else
    none

end Decimal

end CardDeck
