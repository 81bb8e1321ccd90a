import CardDeck.Proofs.Text.Cut
import CardDeck.Proofs.Token.Grammar
import CardDeck.Proofs.Token.Lexeme

/-!
The longest match: what a step takes from the front of a text, told from the grammar.

A step takes the longest lexeme that stands there. There is one exception: digits before a dotted
word are taken alone, and leave the point that a number could end with to the word.
-/

set_option autoImplicit false

namespace CardDeck

section Span

variable {condition : Char → Bool} {front : Text}

theorem spanLength_append (all : ∀ c ∈ front, condition c = true) (rest : Text) :
    spanLength condition (front ++ rest) = front.length + spanLength condition rest := by
  rw [spanLength, List.takeWhile_append_of_pos all, List.length_append, spanLength]

theorem spanLength_exact {rest : Text} (all : ∀ c ∈ front, condition c = true)
    (ends : rest.head?.any condition = false) :
    spanLength condition (front ++ rest) = front.length := by
  rw [spanLength, Text.takeWhile_front all ends]

theorem exists_span (condition : Char → Bool) (text : Text) :
    ∃ front rest, text = front ++ rest ∧ (∀ c ∈ front, condition c = true) ∧
      rest.head?.any condition = false := by
  refine ⟨text.takeWhile condition, text.dropWhile condition, List.takeWhile_append_dropWhile.symm,
    List.all_eq_true.mp List.all_takeWhile, ?_⟩
  have first := List.head?_dropWhile_not condition text
  cases head : (text.dropWhile condition).head? with
  | none => rfl
  | some c =>
    rw [head] at first
    exact first

end Span

namespace Lexeme

/-- A dotted word is found where letters stand between two points. -/
theorem dotted?_eq_some_iff {text : Text} {n : Nat} :
    dotted? text = some n ↔ ∃ word after, Letters word ∧ text = '.' :: (word ++ '.' :: after) ∧
      n = word.length + 2 := by
  constructor
  · intro found
    cases text with
    | nil => cases found
    | cons c rest =>
      by_cases point : c = '.'
      · subst point
        obtain ⟨word, after, rfl, letters, ends⟩ := exists_span Char.isAlpha rest
        simp only [dotted?, spanLength_exact letters ends] at found
        split at found
        · rename_i closed
          cases found
          rw [List.getElem?_append_right (Nat.le_refl _), Nat.sub_self,
            ← List.head?_eq_getElem?] at closed
          obtain ⟨after, rfl⟩ := List.head?_eq_some_iff.mp closed.2
          exact ⟨word, after, ⟨List.length_pos_iff.mp closed.1, letters⟩, rfl, rfl⟩
        · cases found
      · rw [dotted?_of_ne point] at found
        cases found
  · rintro ⟨word, after, letters, rfl, rfl⟩
    have point : ('.' : Char).isAlpha = false := by decide
    have span : spanLength Char.isAlpha (word ++ '.' :: after) = word.length :=
      spanLength_exact letters.2 point
    have positive : 0 < word.length := List.length_pos_iff.mpr letters.1
    have closed : (word ++ '.' :: after)[word.length]? = some '.' := by
      rw [List.getElem?_append_right (Nat.le_refl _), Nat.sub_self]
      rfl
    simp only [dotted?, span]
    rw [if_pos ⟨positive, closed⟩]

theorem dotted?_of_digit {c : Char} (digit : c.isDigit = true) (rest : Text) :
    dotted? ('.' :: c :: rest) = none := by
  cases found : dotted? ('.' :: c :: rest) with
  | none => rfl
  | some n =>
    obtain ⟨word, after, letters, same, -⟩ := dotted?_eq_some_iff.mp found
    obtain ⟨d, more, rfl, alpha⟩ := letters.head
    obtain ⟨rfl, -⟩ := List.cons.inj (List.cons.inj same).2
    rw [isDigit_eq_false_of_isAlpha alpha] at digit
    cases digit

theorem sign_append {sign digits : Text} (signs : sign ∈ [[], ['+'], ['-']])
    (number : Digits digits) (after : Text) :
    Lexeme.sign (sign ++ (digits ++ after)) = sign.length := by
  obtain ⟨c, rest, rfl, digit⟩ := number.head
  have plain : ¬ (c = '+' ∨ c = '-') := by
    rintro (rfl | rfl)
    · revert digit
      decide
    · revert digit
      decide
  simp only [List.mem_cons, List.not_mem_nil, or_false] at signs
  rcases signs with rfl | rfl | rfl
  · exact if_neg plain
  · rfl
  · rfl

theorem take_sign (text : Text) : text.take (sign text) ∈ [[], ['+'], ['-']] := by
  cases text with
  | nil => exact List.mem_cons_self
  | cons c rest =>
    rw [sign]
    split
    · rename_i signed
      rcases signed with rfl | rfl
      · exact List.mem_cons_of_mem _ List.mem_cons_self
      · exact List.mem_cons_of_mem _ (List.mem_cons_of_mem _ List.mem_cons_self)
    · exact List.mem_cons_self

/-- A power at the front is found, perhaps with more digits behind it. -/
theorem le_exponent {power : Text} (form : Power power) (after : Text) :
    power.length ≤ exponent (power ++ after) := by
  cases form with
  | @intro letter sign digits letters signs number =>
    have length := spanLength_append number.2 after
    have positive : 0 < digits.length := List.length_pos_iff.mpr number.1
    rw [List.cons_append, List.append_assoc, exponent, sign_append signs number after,
      List.drop_left, if_pos ⟨(isExponentLetter_iff letter).mpr letters, by omega⟩,
      List.length_cons, List.length_append]
    omega

theorem power_exponent (text : Text) :
    exponent text = 0 ∨ Power (text.take (exponent text)) := by
  cases text with
  | nil => exact Or.inl rfl
  | cons c rest =>
    obtain ⟨digits, after, tail, all, ends⟩ := exists_span Char.isDigit (rest.drop (sign rest))
    rw [exponent, tail, spanLength_exact all ends]
    split
    · rename_i found
      right
      have taken : (c :: rest).take (1 + sign rest + digits.length) =
          c :: (rest.take (sign rest) ++ digits) := by
        rw [Nat.add_assoc, Nat.add_comm 1, List.take_succ_cons, List.take_add, tail,
          List.take_left]
      rw [taken]
      exact .intro ((isExponentLetter_iff c).mp found.1) (take_sign rest)
        ⟨List.length_pos_iff.mp found.2, all⟩
    · exact Or.inl rfl

theorem fraction_point {rest : Text} (free : dotted? ('.' :: rest) = none) :
    fraction ('.' :: rest) = 1 + spanLength Char.isDigit rest := by
  rw [fraction, free]
  rfl

theorem fraction_cases (text : Text) :
    fraction text = 0 ∨ ∃ digits after, text = '.' :: (digits ++ after) ∧
      (∀ c ∈ digits, c.isDigit = true) ∧ after.head?.any Char.isDigit = false ∧
      fraction text = 1 + digits.length := by
  cases text with
  | nil => exact Or.inl rfl
  | cons c rest =>
    by_cases point : c = '.'
    · subst point
      cases word : dotted? ('.' :: rest) with
      | some n =>
        left
        rw [fraction, word]
        rfl
      | none =>
        obtain ⟨digits, after, rfl, all, ends⟩ := exists_span Char.isDigit rest
        refine Or.inr ⟨digits, after, rfl, all, ends, ?_⟩
        rw [fraction_point word, spanLength_exact all ends]
    · exact Or.inl (fraction_of_ne point rest)

theorem number_append {whole rest : Text} (digits : ∀ c ∈ whole, c.isDigit = true)
    (ends : rest.head?.any Char.isDigit = false) :
    number (whole ++ rest) =
      (if fraction rest = 0 ∧ exponent (rest.drop (fraction rest)) = 0 then .integer else .real,
        whole.length + fraction rest + exponent (rest.drop (fraction rest))) := by
  rw [number, spanLength_exact digits ends, List.drop_left, List.drop_length_add_append]

theorem le_number_whole {whole : Text} (digits : ∀ c ∈ whole, c.isDigit = true) (rest : Text) :
    whole.length ≤ (number (whole ++ rest)).2 := by
  rw [number, spanLength_append digits]
  dsimp only
  omega

theorem le_number_scaled {whole power : Text} (digits : ∀ c ∈ whole, c.isDigit = true)
    (scale : Power power) (after : Text) :
    (whole ++ power).length ≤ (number (whole ++ (power ++ after))).2 := by
  have none : fraction (power ++ after) = 0 := by
    obtain ⟨c, rest, rfl, letter, -⟩ := scale.head
    apply fraction_of_ne
    rintro rfl
    revert letter
    decide
  have found := le_exponent scale after
  rw [number_append digits (scale.ends after), none, List.drop_zero, List.length_append]
  dsimp only
  omega

theorem le_number_pointed {whole fraction power after : Text}
    (digits : ∀ c ∈ whole, c.isDigit = true) (digits' : ∀ c ∈ fraction, c.isDigit = true)
    (scale : power = [] ∨ Power power)
    (free : dotted? ('.' :: (fraction ++ (power ++ after))) = none) :
    (whole ++ '.' :: (fraction ++ power)).length ≤
      (number (whole ++ '.' :: (fraction ++ (power ++ after)))).2 := by
  have point : ('.' :: (fraction ++ (power ++ after))).head?.any Char.isDigit = false := rfl
  have length : (whole ++ '.' :: (fraction ++ power)).length =
      whole.length + (1 + fraction.length) + power.length := by
    simp only [List.length_append, List.length_cons]
    omega
  rw [number_append digits point, fraction_point free, length]
  dsimp only
  rcases scale with rfl | scale
  · rw [spanLength_append digits', List.length_nil]
    omega
  · have found := le_exponent scale after
    rw [spanLength_exact digits' (scale.ends after), Nat.add_comm 1, List.drop_succ_cons, List.drop_left]
    omega

/-- A number starts with a digit, or with a point and a digit. -/
def startsNumber (c : Char) (rest : Text) : Bool :=
  c.isDigit || (c == '.' && rest.head?.any Char.isDigit)

theorem startsNumber_of_digits {whole more : Text} (digits : Digits whole) {c : Char} {rest : Text}
    (same : c :: rest = whole ++ more) : startsNumber c rest = true := by
  obtain ⟨d, others, rfl, digit⟩ := digits.head
  obtain ⟨rfl, -⟩ := List.cons.inj same
  rw [startsNumber, digit, Bool.true_or]

theorem isAlpha_of_startsNumber {c : Char} {rest : Text} (starts : startsNumber c rest = true) :
    c.isAlpha = false := by
  rcases Bool.or_eq_true_iff.mp starts with digit | point
  · exact isAlpha_eq_false_of_isDigit digit
  · rw [beq_iff_eq.mp (Bool.and_eq_true_iff.mp point).1]
    decide

theorem language_number_whole {whole rest : Text} (digits : Digits whole)
    (ends : rest.head?.any Char.isDigit = false) (none : fraction rest = 0) :
    (number (whole ++ rest)).1.Language ((whole ++ rest).take (number (whole ++ rest)).2) := by
  rw [number_append digits.2 ends, none, List.drop_zero, Nat.add_zero]
  dsimp only
  rw [List.take_length_add_append]
  rcases power_exponent rest with unscaled | power
  · rw [unscaled, if_pos ⟨rfl, rfl⟩, List.take_zero, List.append_nil]
    exact .integer digits
  · have scaled : ¬ (0 = 0 ∧ exponent rest = 0) := by
      rintro ⟨-, unscaled⟩
      rw [unscaled] at power
      obtain ⟨c, more, empty, -⟩ := power.head
      cases empty
    rw [if_neg scaled]
    exact .scaled digits power

theorem language_number_pointed {whole digits after : Text}
    (all : ∀ c ∈ whole, c.isDigit = true) (all' : ∀ c ∈ digits, c.isDigit = true)
    (present : whole ≠ [] ∨ digits ≠ [])
    (taken : fraction ('.' :: (digits ++ after)) = 1 + digits.length) :
    (number (whole ++ '.' :: (digits ++ after))).1.Language
      ((whole ++ '.' :: (digits ++ after)).take
        (number (whole ++ '.' :: (digits ++ after))).2) := by
  have ends : ('.' :: (digits ++ after)).head?.any Char.isDigit = false := rfl
  have left : ('.' :: (digits ++ after)).drop (1 + digits.length) = after := by
    rw [Nat.add_comm, List.drop_succ_cons, List.drop_left]
  have cut : ('.' :: (digits ++ after)).take (1 + digits.length + exponent after) =
      '.' :: (digits ++ after.take (exponent after)) := by
    rw [Nat.add_assoc, Nat.add_comm 1, List.take_succ_cons, List.take_length_add_append]
  have scale : after.take (exponent after) = [] ∨ Power (after.take (exponent after)) := by
    rcases power_exponent after with unscaled | power
    · left
      rw [unscaled, List.take_zero]
    · exact Or.inr power
  rw [number_append all ends, taken, left, if_neg (by omega), Nat.add_assoc]
  dsimp only
  rw [List.take_length_add_append, cut]
  by_cases empty : whole = []
  · subst empty
    exact .bare ⟨present.resolve_left (absurd rfl), all'⟩ scale
  · exact .pointed ⟨empty, all⟩ all' scale

/-- What is taken for a number is an integer or a real, as it is said to be. -/
theorem language_number {c : Char} {rest : Text} (starts : startsNumber c rest = true) :
    (number (c :: rest)).1.Language ((c :: rest).take (number (c :: rest)).2) := by
  obtain ⟨whole, tail, same, digits, ends⟩ := exists_span Char.isDigit (c :: rest)
  -- where no digit is in front of it, the number is a point with a digit behind it
  have bare : whole = [] → tail = '.' :: rest ∧ rest.head?.any Char.isDigit = true := by
    rintro rfl
    rw [List.nil_append] at same
    subst same
    have other : c.isDigit = false := ends
    rw [startsNumber, other, Bool.false_or, Bool.and_eq_true, beq_iff_eq] at starts
    exact ⟨by rw [starts.1], starts.2⟩
  rw [same]
  rcases fraction_cases tail with none | ⟨fraction', after, rfl, digits', ends', taken⟩
  · apply language_number_whole ⟨_, digits⟩ ends none
    intro empty
    obtain ⟨point, digit⟩ := bare empty
    have found := fraction_pos digit
    rw [← point, none] at found
    exact Nat.lt_irrefl 0 found
  · apply language_number_pointed digits digits' _ taken
    by_cases empty : whole = []
    · right
      rintro rfl
      obtain ⟨point, digit⟩ := bare empty
      rw [← (List.cons.inj point).2, List.nil_append, ends'] at digit
      cases digit
    · exact Or.inl empty

theorem front_of_operator {text after : Text} (listed : text ∈ operators) {c : Char} {rest : Text}
    (same : c :: rest = text ++ after) :
    ¬ c.isAlpha = true ∧ ¬ startsNumber c rest = true ∧ c ≠ '.' := by
  have marks : (operators.all fun text => text.head?.any fun d =>
      ¬ d.isAlpha = true ∧ ¬ d.isDigit = true ∧ d ≠ '.') = true := by decide
  obtain ⟨d, first, mark⟩ := (Option.any_eq_true _ _).mp (List.all_eq_true.mp marks text listed)
  obtain ⟨alpha, digit, point⟩ := of_decide_eq_true mark
  obtain ⟨more, rfl⟩ := List.head?_eq_some_iff.mp first
  obtain ⟨rfl, -⟩ := List.cons.inj same
  refine ⟨alpha, ?_, point⟩
  rw [startsNumber, Bool.eq_false_iff.mpr digit, beq_false_of_ne point]
  exact Bool.false_ne_true

theorem operator?_mem {text : Text} {n : Nat} (found : operator? text = some n) :
    text.take n ∈ operators := by
  have doubles : (doubleOperators.all fun pair => [pair.1, pair.2] ∈ operators) = true := by decide
  have singles : (singleOperators.all fun c => [c] ∈ operators) = true := by decide
  cases text with
  | nil => cases found
  | cons c rest =>
    rw [operator?] at found
    split at found
    · rename_i double
      cases found
      cases rest with
      | nil => cases double
      | cons d rest =>
        exact of_decide_eq_true (List.all_eq_true.mp doubles (c, d) (of_decide_eq_true double))
    · split at found
      · rename_i single
        cases found
        exact of_decide_eq_true (List.all_eq_true.mp singles c single)
      · cases found

/-- An operator at the front is found, or a longer one is. -/
theorem le_operator? {text : Text} (listed : text ∈ operators) (after : Text) :
    ∃ n, operator? (text ++ after) = some n ∧ text.length ≤ n := by
  have forms : (operators.all fun text => text ∈ singleOperators.map ([·]) ∨
      text ∈ doubleOperators.map fun pair => [pair.1, pair.2]) = true := by decide
  have form := of_decide_eq_true (List.all_eq_true.mp forms text listed)
  rw [List.mem_map, List.mem_map] at form
  rcases form with ⟨c, single, rfl⟩ | ⟨⟨c, d⟩, double, rfl⟩
  · rw [List.singleton_append, operator?, if_pos single]
    by_cases double : after.head?.any fun d => (c, d) ∈ doubleOperators
    · exact ⟨2, if_pos double, Nat.le_succ 1⟩
    · exact ⟨1, if_neg double, Nat.le_refl 1⟩
  · refine ⟨2, ?_, Nat.le_refl _⟩
    exact if_pos (decide_eq_true double)

end Lexeme

section Dispatch

variable {c : Char} {rest : Text}

theorem lexeme?_of_isAlpha (alpha : c.isAlpha = true) :
    lexeme? c rest = some (.identifier, 1 + spanLength isWordChar rest) := by
  rw [lexeme?, if_pos alpha]

theorem lexeme?_of_startsNumber (starts : Lexeme.startsNumber c rest = true) :
    lexeme? c rest = some (Lexeme.number (c :: rest)) := by
  rw [lexeme?, Lexeme.isAlpha_of_startsNumber starts, if_neg Bool.false_ne_true]
  exact if_pos starts

theorem lexeme?_of_dotted {n : Nat} (found : Lexeme.dotted? (c :: rest) = some n) :
    lexeme? c rest = some (.dotted, n) := by
  obtain ⟨word, after, letters, same, -⟩ := Lexeme.dotted?_eq_some_iff.mp found
  obtain ⟨rfl, rfl⟩ := List.cons.inj same
  obtain ⟨d, more, rfl, alpha⟩ := letters.head
  have plain : ('.' : Char).isAlpha = false := by decide
  have other : Lexeme.startsNumber '.' ((d :: more) ++ '.' :: after) = false :=
    isDigit_eq_false_of_isAlpha alpha
  rw [Lexeme.startsNumber] at other
  rw [lexeme?, plain, if_neg Bool.false_ne_true, other, if_neg Bool.false_ne_true, found]

theorem lexeme?_of_operator (alpha : ¬ c.isAlpha = true)
    (starts : ¬ Lexeme.startsNumber c rest = true) (word : Lexeme.dotted? (c :: rest) = none) :
    lexeme? c rest = (Lexeme.operator? (c :: rest)).map fun length => (.operator, length) := by
  rw [Lexeme.startsNumber] at starts
  rw [lexeme?, if_neg alpha, if_neg starts, word]

end Dispatch

theorem isWordChar_iff (c : Char) :
    isWordChar c = true ↔ c.isAlpha = true ∨ c.isDigit = true ∨ c = '_' := by
  rw [isWordChar, Char.isAlphanum, Bool.or_eq_true, Bool.or_eq_true, beq_iff_eq, or_assoc]

/-- What is taken from the front of a text is in the language of its kind. -/
theorem lexeme?_language {c : Char} {rest : Text} {kind : TokenKind} {n : Nat}
    (found : lexeme? c rest = some (kind, n)) : kind.Language ((c :: rest).take n) := by
  by_cases alpha : c.isAlpha = true
  · rw [lexeme?_of_isAlpha alpha] at found
    cases found
    obtain ⟨word, after, rfl, all, ends⟩ := exists_span isWordChar rest
    rw [spanLength_exact all ends, Nat.add_comm, List.take_succ_cons, List.take_left]
    exact .identifier alpha fun d member => (isWordChar_iff d).mp (all d member)
  by_cases starts : Lexeme.startsNumber c rest = true
  · rw [lexeme?_of_startsNumber starts] at found
    have number := Lexeme.language_number starts
    rwa [Option.some.inj found] at number
  cases dotted : Lexeme.dotted? (c :: rest) with
  | some m =>
    rw [lexeme?_of_dotted dotted] at found
    cases found
    obtain ⟨word, after, letters, same, rfl⟩ := Lexeme.dotted?_eq_some_iff.mp dotted
    rw [same, List.take_succ_cons, List.take_length_add_append]
    exact .dotted letters
  | none =>
    rw [lexeme?_of_operator alpha starts dotted, Option.map_eq_some_iff] at found
    obtain ⟨m, operator, same⟩ := found
    cases same
    exact .operator (Lexeme.operator?_mem operator)

/-- Digits before a dotted word are taken alone. -/
theorem lexeme?_of_parted {c : Char} {rest digits : Text} (parted : Parted (c :: rest) digits) :
    lexeme? c rest = some (.integer, digits.length) := by
  obtain ⟨number, _, after, dotted, same⟩ := parted
  cases dotted with
  | @dotted word letters =>
    have tail : ('.' :: (word ++ ['.'])) ++ after = '.' :: (word ++ '.' :: after) := by
      rw [List.cons_append, List.append_assoc, List.singleton_append]
    have found : Lexeme.dotted? ('.' :: (word ++ '.' :: after)) = some (word.length + 2) :=
      Lexeme.dotted?_eq_some_iff.mpr ⟨word, after, letters, rfl, rfl⟩
    have unpointed : Lexeme.fraction ('.' :: (word ++ '.' :: after)) = 0 := by
      rw [Lexeme.fraction, found]
      rfl
    have unscaled : Lexeme.exponent ('.' :: (word ++ '.' :: after)) = 0 := by
      rw [Lexeme.exponent]
      apply if_neg
      rintro ⟨letter, -⟩
      revert letter
      decide
    have ends : ('.' :: (word ++ '.' :: after)).head?.any Char.isDigit = false := rfl
    rw [lexeme?_of_startsNumber (Lexeme.startsNumber_of_digits number same), same, tail,
      Lexeme.number_append number.2 ends, unpointed, List.drop_zero, unscaled, if_pos ⟨rfl, rfl⟩]
    rfl

/--
No lexeme at the front is longer than what is taken, unless it has a point that is left to a dotted
word.
-/
theorem le_lexeme? {kind : TokenKind} {text after : Text} {c : Char} {rest : Text}
    (form : kind.Language text) (same : c :: rest = text ++ after)
    (free : ∀ digits, ¬ Parted (c :: rest) digits) :
    ∃ other n, lexeme? c rest = some (other, n) ∧ text.length ≤ n := by
  have numeric : Lexeme.startsNumber c rest = true →
      text.length ≤ (Lexeme.number (text ++ after)).2 →
      ∃ other n, lexeme? c rest = some (other, n) ∧ text.length ≤ n := by
    intro starts bound
    refine ⟨_, _, lexeme?_of_startsNumber starts, ?_⟩
    rwa [same]
  cases form with
  | @identifier _ word letter others =>
    rw [List.cons_append] at same
    obtain ⟨rfl, rfl⟩ := List.cons.inj same
    have all : ∀ d ∈ word, isWordChar d = true := fun d member =>
      (isWordChar_iff d).mpr (others d member)
    refine ⟨_, _, lexeme?_of_isAlpha letter, ?_⟩
    rw [spanLength_append all, List.length_cons]
    omega
  | integer number =>
    exact numeric (Lexeme.startsNumber_of_digits number same)
      (Lexeme.le_number_whole number.2 after)
  | @pointed whole fraction power number digits scale =>
    rw [List.append_assoc] at same
    apply numeric (Lexeme.startsNumber_of_digits number same)
    rw [List.append_assoc, List.cons_append, List.append_assoc]
    apply Lexeme.le_number_pointed number.2 digits scale
    -- behind digits a dotted word would be one that parts them from it
    cases found : Lexeme.dotted? ('.' :: (fraction ++ (power ++ after))) with
    | none => rfl
    | some n =>
      obtain ⟨word, others, letters, tail, -⟩ := Lexeme.dotted?_eq_some_iff.mp found
      refine absurd ⟨number, _, others, .dotted letters, ?_⟩ (free whole)
      rw [same, List.cons_append, List.append_assoc, tail, List.cons_append, List.append_assoc]
      rfl
  | @bare fraction power number scale =>
    obtain ⟨d, more, shape, digit⟩ := number.head
    rw [List.cons_append, List.append_assoc] at same
    obtain ⟨rfl, rfl⟩ := List.cons.inj same
    have starts : Lexeme.startsNumber '.' (fraction ++ (power ++ after)) = true := by
      rw [shape]
      exact digit
    have free' : Lexeme.dotted? ('.' :: (fraction ++ (power ++ after))) = none := by
      rw [shape]
      exact Lexeme.dotted?_of_digit digit _
    apply numeric starts
    rw [List.cons_append, List.append_assoc]
    exact Lexeme.le_number_pointed (List.forall_mem_nil _) number.2 scale free'
  | scaled number scale =>
    rw [List.append_assoc] at same
    apply numeric (Lexeme.startsNumber_of_digits number same)
    rw [List.append_assoc]
    exact Lexeme.le_number_scaled number.2 scale after
  | @dotted word letters =>
    rw [List.cons_append, List.append_assoc, List.singleton_append] at same
    have found := Lexeme.dotted?_eq_some_iff.mpr ⟨word, after, letters, same, rfl⟩
    have length : ('.' :: (word ++ ['.'])).length = word.length + 2 := by
      rw [List.length_cons, List.length_append, List.length_singleton]
    exact ⟨_, _, lexeme?_of_dotted found, Nat.le_of_eq length⟩
  | operator listed =>
    obtain ⟨n, found, bound⟩ := Lexeme.le_operator? listed after
    obtain ⟨alpha, starts, point⟩ := Lexeme.front_of_operator listed same
    refine ⟨.operator, n, ?_, bound⟩
    rw [lexeme?_of_operator alpha starts (Lexeme.dotted?_of_ne point rest), same, found]
    rfl

end CardDeck
