import CardDeck.Token.Basic

set_option autoImplicit false

namespace CardDeck

def spanLength (condition : Char → Bool) (text : Text) : Nat := (text.takeWhile condition).length

theorem spanLength_le (condition : Char → Bool) (text : Text) :
    spanLength condition text ≤ text.length :=
  (List.takeWhile_sublist condition).length_le

def isWordChar (c : Char) : Bool := c.isAlphanum || c == '_'

namespace Lexeme

/-- Length of the dotted word at the front: a point, one or more letters, and a point. -/
def dotted? : Text → Option Nat
  | '.' :: rest =>
    let letters := spanLength Char.isAlpha rest
    if 0 < letters ∧ rest[letters]? = some '.' then some (letters + 2) else none
  | _ => none

/-- Length of a point and the digits after it; a point that starts a dotted word is none. -/
def fraction : Text → Nat
  | '.' :: rest => if (dotted? ('.' :: rest)).isSome then 0 else 1 + spanLength Char.isDigit rest
  | _ => 0

def isExponentLetter (c : Char) : Bool := c == 'E' || c == 'e' || c == 'D' || c == 'd'

def sign : Text → Nat
  | c :: _ => if c = '+' ∨ c = '-' then 1 else 0
  | [] => 0

/-- Length of an exponent: a letter, perhaps a sign, and one or more digits. -/
def exponent : Text → Nat
  | c :: rest =>
    let digits := spanLength Char.isDigit (rest.drop (sign rest))
    if isExponentLetter c ∧ 0 < digits then 1 + sign rest + digits else 0
  | [] => 0

/-- Kind and length of the number at the front. -/
def number (text : Text) : TokenKind × Nat :=
  let whole := spanLength Char.isDigit text
  let point := fraction (text.drop whole)
  let power := exponent (text.drop (whole + point))
  (if point = 0 ∧ power = 0 then .integer else .real, whole + point + power)

def doubleOperators : List (Char × Char) :=
  [('*', '*'), ('/', '/'), ('<', '='), ('>', '='), ('=', '='), ('/', '=')]

def singleOperators : List Char := ['+', '-', '*', '/', '=', '(', ')', ',', ':', '<', '>']

/-- Length of the operator at the front. -/
def operator? : Text → Option Nat
  | c :: rest =>
    if rest.head?.any fun d => (c, d) ∈ doubleOperators then some 2
    else if c ∈ singleOperators then some 1
    else none
  | [] => none

end Lexeme

/-- Kind and length of the lexeme at the front, if one stands there. -/
def lexeme? (c : Char) (rest : Text) : Option (TokenKind × Nat) :=
  if c.isAlpha then
    some (.identifier, 1 + spanLength isWordChar rest)
  else if c.isDigit || (c == '.' && rest.head?.any Char.isDigit) then
    some (Lexeme.number (c :: rest))
  else
    match Lexeme.dotted? (c :: rest) with
    | some length => some (.dotted, length)
    | none => (Lexeme.operator? (c :: rest)).map fun length => (.operator, length)

theorem isUpper_iff_toNat {c : Char} : c.isUpper = true ↔ 65 ≤ c.toNat ∧ c.toNat ≤ 90 :=
  decide_eq_true_iff.trans (and_congr UInt32.le_iff_toNat_le UInt32.le_iff_toNat_le)

theorem isLower_iff_toNat {c : Char} : c.isLower = true ↔ 97 ≤ c.toNat ∧ c.toNat ≤ 122 :=
  Bool.and_eq_true_iff.trans (and_congr (decide_eq_true_iff.trans UInt32.le_iff_toNat_le)
    (decide_eq_true_iff.trans UInt32.le_iff_toNat_le))

theorem isAlpha_iff_toNat {c : Char} :
    c.isAlpha = true ↔ 65 ≤ c.toNat ∧ c.toNat ≤ 90 ∨ 97 ≤ c.toNat ∧ c.toNat ≤ 122 :=
  Bool.or_eq_true_iff.trans (or_congr isUpper_iff_toNat isLower_iff_toNat)

theorem isAlpha_eq_false_of_isDigit {c : Char} (digit : c.isDigit = true) : c.isAlpha = false := by
  have low : 48 ≤ c.toNat ∧ c.toNat ≤ 57 := Char.isDigit_iff_toNat.mp digit
  rw [Bool.eq_false_iff]
  intro alpha
  have high := isAlpha_iff_toNat.mp alpha
  omega

theorem Lexeme.fraction_pos {rest : Text} (digit : rest.head?.any Char.isDigit = true) :
    0 < Lexeme.fraction ('.' :: rest) := by
  cases rest with
  | nil => simp at digit
  | cons d rest =>
    have plain := isAlpha_eq_false_of_isDigit (c := d) digit
    simp only [Lexeme.fraction, Lexeme.dotted?, spanLength, List.takeWhile_cons, plain,
      Bool.false_eq_true, ↓reduceIte, List.length_nil, Nat.lt_irrefl, false_and,
      Option.isSome_none]
    omega

theorem lexeme?_length_pos {c : Char} {rest : Text} {kind : TokenKind} {length : Nat}
    (found : lexeme? c rest = some (kind, length)) : 0 < length := by
  simp only [lexeme?] at found
  split at found
  · cases found
    omega
  · split at found
    next starts =>
      cases found
      by_cases digit : c.isDigit = true
      · simp only [spanLength, List.takeWhile_cons, digit, ↓reduceIte, List.length_cons]
        omega
      · simp only [digit, Bool.false_or, Bool.and_eq_true, beq_iff_eq] at starts
        obtain ⟨rfl, digit'⟩ := starts
        have := Lexeme.fraction_pos digit'
        simp only [spanLength, List.takeWhile_cons, digit, Bool.false_eq_true, ↓reduceIte,
          List.length_nil, List.drop_zero]
        omega
    next =>
      split at found
      next length' dotted =>
        cases found
        simp only [Lexeme.dotted?] at dotted
        split at dotted
        · split at dotted <;> cases dotted
          omega
        · cases dotted
      next =>
        simp only [Lexeme.operator?, Option.map_eq_some_iff, Prod.mk.injEq] at found
        obtain ⟨n, operator, -, rfl⟩ := found
        split at operator
        · cases operator
          omega
        · split at operator <;> cases operator
          omega

end CardDeck
