import CardDeck.Proofs.Literal.Open
import CardDeck.Proofs.Token.Lexeme
import CardDeck.Token.Entry

set_option autoImplicit false

namespace CardDeck

namespace Entry

/-- The characters that an entry takes. -/
def text : Entry → Text
  | token found => found.lexeme
  | unclosed found => found.text
  | stray ch _ => [ch]

def position : Entry → Position
  | token found => found.position
  | unclosed found => found.position
  | stray _ position => position

/-- All that can stand at the front of a text, with what makes it stand there. -/
theorem front_cases (position : Position) (c : Char) (rest : Text) :
    (∃ n, isDelimiter c = true ∧ closing? c rest = some n ∧ n < rest.length ∧
      front position c rest = .token ⟨.character, c :: rest.take n, position⟩) ∨
    (∃ found : OpenLiteral, isDelimiter c = true ∧ found.delimiter = c ∧ found.text = c :: rest ∧
      found.position = position ∧ found.Formed ∧ front position c rest = .unclosed found) ∨
    (∃ kind length, isDelimiter c = false ∧ lexeme? c rest = some (kind, length) ∧
      front position c rest = .token ⟨kind, (c :: rest).take length, position⟩) ∨
    (isDelimiter c = false ∧ lexeme? c rest = none ∧
      front position c rest = .stray c position) := by
  unfold front
  cases delimiter : isDelimiter c with
  | true =>
    rw [if_pos rfl, literal]
    cases closing : closing? c rest with
    | none =>
      have formed : OpenLiteral.Formed ⟨c, c :: rest, position, false⟩ :=
        OpenLiteral.formed_iff.mpr ⟨rest, rfl, closing⟩
      exact Or.inr (Or.inl ⟨_, rfl, rfl, rfl, rfl, formed, rfl⟩)
    | some n =>
      by_cases inside : n < rest.length
      · exact Or.inl ⟨n, rfl, rfl, inside, if_pos inside⟩
      · have whole : n = rest.length := by
          have bounds := closing?_bounds closing
          omega
        have formed : OpenLiteral.Formed ⟨c, c :: rest, position, true⟩ :=
          OpenLiteral.formed_iff.mpr ⟨rest, rfl, whole ▸ closing⟩
        exact Or.inr (Or.inl ⟨_, rfl, rfl, rfl, rfl, formed, if_neg inside⟩)
  | false =>
    rw [if_neg Bool.false_ne_true]
    cases found : lexeme? c rest with
    | none => exact Or.inr (Or.inr (Or.inr ⟨rfl, rfl, rfl⟩))
    | some lexeme => exact Or.inr (Or.inr (Or.inl ⟨_, _, rfl, rfl, rfl⟩))

theorem front_position (position : Position) (c : Char) (rest : Text) :
    (front position c rest).position = position := by
  rcases front_cases position c rest with
    ⟨n, -, -, -, same⟩ | ⟨literal, -, -, -, place, -, same⟩ | ⟨kind, n, -, -, same⟩ | ⟨-, -, same⟩
  · rw [same]
    rfl
  · rw [same]
    exact place
  · rw [same]
    rfl
  · rw [same]
    rfl

/-- The mark that ends a statement stands on no card. -/
theorem front_regular {position : Position} {c : Char} {rest : Text} {token : Token}
    (here : front position c rest = .token token) : token.isStatementEnd = false := by
  rcases front_cases position c rest with
    ⟨n, -, -, -, same⟩ | ⟨literal, -, -, -, -, -, same⟩ | ⟨kind, n, -, found, same⟩ | ⟨-, -, same⟩
  · rw [same] at here
    cases here
    rfl
  · rw [same] at here
    cases here
  · rw [same] at here
    cases here
    exact beq_false_of_ne (lexeme?_kind_ne found)
  · rw [same] at here
    cases here

theorem front_text (position : Position) (c : Char) (rest : Text) :
    (front position c rest).text = (c :: rest).take (front position c rest).length ∧
      (front position c rest).length ≤ rest.length + 1 := by
  rcases front_cases position c rest with
    ⟨n, -, -, inside, same⟩ | ⟨literal, -, -, whole, -, -, same⟩ | ⟨kind, n, -, found, same⟩ |
      ⟨-, -, same⟩
  · have fits : min n rest.length = n := Nat.min_eq_left (Nat.le_of_lt inside)
    rw [same]
    simp only [text, length, List.length_cons, List.length_take, fits, List.take_succ_cons]
    exact ⟨trivial, by omega⟩
  · rw [same]
    simp [text, length, whole]
  · have fits : min n (rest.length + 1) = n := Nat.min_eq_left (lexeme?_length_le found)
    rw [same]
    simp only [text, length, List.length_take, List.length_cons, fits]
    exact ⟨trivial, lexeme?_length_le found⟩
  · rw [same]
    simp [text, length]

end Entry

theorem exists_front_of_mem_entries {position : Position} {text : Text} {entry : Entry}
    (member : entry ∈ entries position text) :
    ∃ before c rest, text = before ++ c :: rest ∧ isWhite c = false ∧
      entry = Entry.front (position.right before.length) c rest := by
  fun_induction entries position text with
  | case1 position => cases member
  | case2 position c rest white ih =>
    obtain ⟨before, d, more, same, plain, found⟩ := ih member
    refine ⟨c :: before, d, more, by rw [same]; rfl, plain, ?_⟩
    rw [found, Position.right_right, List.length_cons, Nat.add_comm]
  | case3 position c rest white first ih =>
    rcases List.mem_cons.mp member with here | later
    · exact ⟨[], c, rest, rfl, by simpa using white, here⟩
    · obtain ⟨before, d, more, same, plain, found⟩ := ih later
      have fits := (Entry.front_text position c rest).2
      have cut : ((c :: rest).take first.length).length = first.length := by
        rw [List.length_take, List.length_cons]
        exact Nat.min_eq_left fits
      refine ⟨(c :: rest).take first.length ++ before, d, more, ?_, plain, ?_⟩
      · rw [List.append_assoc, ← same, List.take_append_drop]
      · rw [found, Position.right_right, List.length_append, cut]

end CardDeck
