import CardDeck.Token.Lexeme

set_option autoImplicit false

namespace CardDeck

namespace Lexeme

theorem dotted?_of_ne {c : Char} (other : c ≠ '.') (rest : Text) : dotted? (c :: rest) = none := by
  unfold dotted?
  split
  · rename_i same
    exact absurd (List.cons.inj same).1 other
  · rfl

theorem fraction_of_ne {c : Char} (other : c ≠ '.') (rest : Text) : fraction (c :: rest) = 0 := by
  unfold fraction
  split
  · rename_i same
    exact absurd (List.cons.inj same).1 other
  · rfl

theorem isExponentLetter_iff (c : Char) :
    isExponentLetter c = true ↔ c ∈ ['E', 'e', 'D', 'd'] := by
  simp only [isExponentLetter, Bool.or_eq_true, beq_iff_eq, List.mem_cons, List.not_mem_nil,
    or_false, or_assoc]

theorem dotted?_le {text : Text} {n : Nat} (found : dotted? text = some n) : n ≤ text.length := by
  unfold dotted? at found
  split at found
  · rename_i rest
    dsimp only at found
    split at found
    · rename_i closed
      cases found
      obtain ⟨inside, -⟩ := List.getElem?_eq_some_iff.mp closed.2
      rw [List.length_cons]
      omega
    · cases found
  · cases found

theorem fraction_le (text : Text) : fraction text ≤ text.length := by
  unfold fraction
  split
  · rename_i rest
    have digits := spanLength_le Char.isDigit rest
    rw [List.length_cons]
    split <;> omega
  · exact Nat.zero_le _

theorem sign_le (text : Text) : sign text ≤ text.length := by
  unfold sign
  split
  · rw [List.length_cons]
    split <;> omega
  · exact Nat.le_refl _

theorem exponent_le (text : Text) : exponent text ≤ text.length := by
  unfold exponent
  split
  · rename_i c rest
    have signed := sign_le rest
    have digits := spanLength_le Char.isDigit (rest.drop (sign rest))
    rw [List.length_drop] at digits
    rw [List.length_cons]
    dsimp only
    split <;> omega
  · exact Nat.le_refl _

theorem number_le (text : Text) : (number text).2 ≤ text.length := by
  have whole := spanLength_le Char.isDigit text
  have point := fraction_le (text.drop (spanLength Char.isDigit text))
  rw [List.length_drop] at point
  have power := exponent_le (text.drop (spanLength Char.isDigit text +
    fraction (text.drop (spanLength Char.isDigit text))))
  rw [List.length_drop] at power
  simp only [number]
  omega

theorem operator?_le {text : Text} {n : Nat} (found : operator? text = some n) :
    n ≤ text.length := by
  unfold operator? at found
  split at found
  · rename_i c rest
    rw [List.length_cons]
    split at found
    · rename_i double
      cases found
      cases rest with
      | nil => simp at double
      | cons d rest => simp
    · split at found <;> cases found
      omega
  · cases found

end Lexeme

theorem lexeme?_length_le {c : Char} {rest : Text} {kind : TokenKind} {length : Nat}
    (found : lexeme? c rest = some (kind, length)) : length ≤ rest.length + 1 := by
  unfold lexeme? at found
  split at found
  · cases found
    have word := spanLength_le isWordChar rest
    omega
  · split at found
    · have number := Lexeme.number_le (c :: rest)
      rw [Option.some.inj found, List.length_cons] at number
      exact number
    · split at found
      · rename_i dotted
        cases found
        exact Lexeme.dotted?_le dotted
      · obtain ⟨n, operator, same⟩ := Option.map_eq_some_iff.mp found
        cases same
        exact Lexeme.operator?_le operator

theorem lexeme?_kind_ne {c : Char} {rest : Text} {kind : TokenKind} {length : Nat}
    (found : lexeme? c rest = some (kind, length)) : kind ≠ .statementEnd := by
  unfold lexeme? at found
  split at found
  · cases found
    decide
  · split at found
    · have kinds := congrArg Prod.fst (Option.some.inj found)
      simp only [Lexeme.number] at kinds
      subst kinds
      split <;> decide
    · split at found
      · cases found
        decide
      · obtain ⟨n, operator, same⟩ := Option.map_eq_some_iff.mp found
        cases same
        decide

theorem isAlpha_of_lexeme?_eq_none {c : Char} {rest : Text} (none : lexeme? c rest = none) :
    c.isAlpha = false := by
  rw [Bool.eq_false_iff]
  intro alpha
  rw [lexeme?, if_pos alpha] at none
  cases none

end CardDeck
