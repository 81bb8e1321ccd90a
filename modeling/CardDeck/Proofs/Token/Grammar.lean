import CardDeck.Token.Lexeme

set_option autoImplicit false

namespace CardDeck

def Digits (text : Text) : Prop := text ≠ [] ∧ ∀ c ∈ text, c.isDigit = true

def Letters (text : Text) : Prop := text ≠ [] ∧ ∀ c ∈ text, c.isAlpha = true

/-- A letter for a power of ten, perhaps a sign, and one or more digits. -/
inductive Power : Text → Prop where
  | intro {letter : Char} {sign digits : Text} (letters : letter ∈ ['E', 'e', 'D', 'd'])
    (signs : sign ∈ [[], ['+'], ['-']]) (number : Digits digits) :
    Power (letter :: (sign ++ digits))

/-- Operators and marks of punctuation, the longer ones first. -/
def operators : List Text :=
  ["**", "//", "<=", ">=", "==", "/=", "+", "-", "*", "/", "=", "(", ")", ",", ":", "<",
    ">"].map String.toList

/--
The lexemes of a kind that one can tell from their characters. Literals are not among them, as
where a literal ends depends on what follows it.
-/
inductive TokenKind.Language : TokenKind → Text → Prop where
  | identifier {c : Char} {rest : Text} (letter : c.isAlpha = true)
    (others : ∀ d ∈ rest, d.isAlpha = true ∨ d.isDigit = true ∨ d = '_') :
    Language .identifier (c :: rest)
  | integer {whole : Text} (number : Digits whole) : Language .integer whole
  | pointed {whole fraction power : Text} (number : Digits whole)
    (digits : ∀ c ∈ fraction, c.isDigit = true) (scale : power = [] ∨ Power power) :
    Language .real (whole ++ '.' :: (fraction ++ power))
  | bare {fraction power : Text} (number : Digits fraction) (scale : power = [] ∨ Power power) :
    Language .real ('.' :: (fraction ++ power))
  | scaled {whole power : Text} (number : Digits whole) (scale : Power power) :
    Language .real (whole ++ power)
  | dotted {word : Text} (letters : Letters word) : Language .dotted ('.' :: (word ++ ['.']))
  | operator {text : Text} (listed : text ∈ operators) : Language .operator text

/-- The text is a lexeme of some kind. -/
def Lexical (text : Text) : Prop := ∃ kind : TokenKind, kind.Language text

theorem Digits.head {text : Text} (digits : Digits text) :
    ∃ c rest, text = c :: rest ∧ c.isDigit = true := by
  obtain ⟨c, rest, rfl⟩ := List.exists_cons_of_ne_nil digits.1
  exact ⟨c, rest, rfl, digits.2 c List.mem_cons_self⟩

theorem Letters.head {text : Text} (letters : Letters text) :
    ∃ c rest, text = c :: rest ∧ c.isAlpha = true := by
  obtain ⟨c, rest, rfl⟩ := List.exists_cons_of_ne_nil letters.1
  exact ⟨c, rest, rfl, letters.2 c List.mem_cons_self⟩

theorem isDigit_eq_false_of_isAlpha {c : Char} (alpha : c.isAlpha = true) : c.isDigit = false := by
  rw [Bool.eq_false_iff]
  intro digit
  rw [isAlpha_eq_false_of_isDigit digit] at alpha
  cases alpha

theorem Power.head {text : Text} (power : Power text) :
    ∃ c rest, text = c :: rest ∧ c ∈ ['E', 'e', 'D', 'd'] ∧ c.isDigit = false := by
  obtain ⟨letters, signs, number⟩ := power
  have plain : (['E', 'e', 'D', 'd'].all fun c => !c.isDigit) = true := by decide
  exact ⟨_, _, rfl, letters, (Bool.not_eq_true' _).mp (List.all_eq_true.mp plain _ letters)⟩

theorem Power.ends {power : Text} (scale : Power power) (after : Text) :
    (power ++ after).head?.any Char.isDigit = false := by
  obtain ⟨c, rest, rfl, -, other⟩ := scale.head
  exact other

namespace Lexeme

/-- The kind of a lexeme, told from its first two characters and from whether all are digits. -/
def kindOf : Text → TokenKind
  | [] => .operator
  | c :: rest =>
    if c.isAlpha then .identifier
    else if (c :: rest).all Char.isDigit then .integer
    else if c.isDigit || (c == '.' && rest.head?.any Char.isDigit) then .real
    else if c == '.' then .dotted
    else .operator

theorem kindOf_digits {text : Text} (digits : Digits text) : kindOf text = .integer := by
  obtain ⟨c, rest, rfl, digit⟩ := digits.head
  rw [kindOf, isAlpha_eq_false_of_isDigit digit, if_neg Bool.false_ne_true,
    if_pos (List.all_eq_true.mpr digits.2)]

theorem kindOf_append {whole rest : Text} (digits : Digits whole) {c : Char} (member : c ∈ rest)
    (other : c.isDigit = false) : kindOf (whole ++ rest) = .real := by
  obtain ⟨first, more, rfl, digit⟩ := digits.head
  have mixed : ¬ (first :: (more ++ rest)).all Char.isDigit = true := by
    intro all
    have digit := List.all_eq_true.mp all c
      (List.mem_cons_of_mem _ (List.mem_append_right _ member))
    rw [other] at digit
    cases digit
  rw [List.cons_append, kindOf, isAlpha_eq_false_of_isDigit digit, if_neg Bool.false_ne_true,
    if_neg mixed, digit, Bool.true_or, if_pos rfl]

theorem kindOf_point {c : Char} {rest : Text} :
    kindOf ('.' :: c :: rest) = if c.isDigit then .real else .dotted := by
  have alpha : ('.' : Char).isAlpha = false := by decide
  have digit : ('.' : Char).isDigit = false := by decide
  simp only [kindOf, alpha, List.all_cons, digit, Bool.false_and, Bool.false_or, beq_self_eq_true,
    Bool.true_and, List.head?_cons, Option.any_some, Bool.false_eq_true, ↓reduceIte]

end Lexeme

/-- A text has one kind at most. -/
theorem TokenKind.Language.eq_kindOf {kind : TokenKind} {text : Text}
    (form : kind.Language text) : kind = Lexeme.kindOf text := by
  have point : ('.' : Char).isDigit = false := by decide
  cases form with
  | identifier letter others => rw [Lexeme.kindOf, if_pos letter]
  | integer number => exact (Lexeme.kindOf_digits number).symm
  | pointed number digits scale =>
    exact (Lexeme.kindOf_append number List.mem_cons_self point).symm
  | bare number scale =>
    obtain ⟨c, rest, rfl, digit⟩ := number.head
    rw [List.cons_append, Lexeme.kindOf_point, if_pos digit]
  | scaled number scale =>
    obtain ⟨c, rest, rfl, -, other⟩ := scale.head
    exact (Lexeme.kindOf_append number List.mem_cons_self other).symm
  | dotted letters =>
    obtain ⟨c, rest, rfl, alpha⟩ := letters.head
    rw [List.cons_append, Lexeme.kindOf_point, isDigit_eq_false_of_isAlpha alpha,
      if_neg Bool.false_ne_true]
  | operator listed =>
    have kinds : ∀ text ∈ operators, Lexeme.kindOf text = .operator := by decide
    exact (kinds text listed).symm

theorem TokenKind.Language.kind_unique {kind other : TokenKind} {text : Text}
    (form : kind.Language text) (form' : other.Language text) : other = kind :=
  form'.eq_kindOf.trans form.eq_kindOf.symm

/-- A dotted word stands behind the digits at the front of the whole. -/
def Parted (whole digits : Text) : Prop :=
  Digits digits ∧ ∃ word after, TokenKind.dotted.Language word ∧ whole = digits ++ (word ++ after)

/-- The text is at the front of the whole, and none of the language there is longer. -/
structure Longest (language : Text → Prop) (whole text : Text) : Prop where
  front : text <+: whole
  member : language text
  bound : ∀ other, other <+: whole → language other → other.length ≤ text.length

theorem Longest.eq {language : Text → Prop} {whole text other : Text}
    (longest : Longest language whole text) (longest' : Longest language whole other) :
    other = text := by
  have length : other.length = text.length :=
    Nat.le_antisymm (longest.bound other longest'.front longest'.member)
      (longest'.bound text longest.front longest.member)
  exact (List.prefix_of_prefix_length_le longest'.front longest.front
    (Nat.le_of_eq length)).eq_of_length length

end CardDeck
