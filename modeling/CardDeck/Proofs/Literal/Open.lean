import CardDeck.Proofs.Literal.Closing

set_option autoImplicit false

namespace CardDeck.OpenLiteral

/-- A delimiter and text that leaves the literal open; at the edge, one more delimiter. -/
def Formed (literal : OpenLiteral) : Prop :=
  ∃ inner, Inner literal.delimiter inner ∧
    literal.text = literal.delimiter ::
      (inner ++ if literal.closedAtEdge then [literal.delimiter] else [])

/-- Number of characters that the literal takes of the text that follows it, if it closes there. -/
def closingIn? (literal : OpenLiteral) (rest : Text) : Option Nat :=
  if literal.closedAtEdge then
    if rest.head? = some literal.delimiter then
      (closing? literal.delimiter rest.tail).map (1 + ·)
    else
      some 0
  else
    closing? literal.delimiter rest

theorem formed_iff {literal : OpenLiteral} :
    literal.Formed ↔ ∃ content, literal.text = literal.delimiter :: content ∧
      closing? literal.delimiter content =
        if literal.closedAtEdge then some content.length else none := by
  constructor
  · rintro ⟨inner, opened, text⟩
    refine ⟨_, text, ?_⟩
    split
    · rw [closing?_of_closes opened (by simp)]
      simp
    · rw [List.append_nil, closing?_of_inner opened]
  · rintro ⟨content, text, closing⟩
    split at closing
    · rename_i edge
      obtain ⟨front, back, same, opened, -, length⟩ := closing?_eq_some_iff.mp closing
      have last : back = [] := List.eq_nil_of_length_eq_zero (by
        rw [same, List.length_append, List.length_cons] at length
        omega)
      subst last
      exact ⟨front, opened, by rw [text, if_pos edge, same]⟩
    · rename_i edge
      exact ⟨content, closing?_eq_none_iff.mp closing, by rw [text, if_neg edge, List.append_nil]⟩

theorem Formed.closing?_append {literal : OpenLiteral} (formed : literal.Formed) (rest : Text) :
    closing? literal.delimiter (literal.text.tail ++ rest) =
      (literal.closingIn? rest).map (literal.text.tail.length + ·) := by
  obtain ⟨content, text, closing⟩ := formed_iff.mp formed
  rw [text, List.tail_cons, closingIn?]
  by_cases edge : literal.closedAtEdge = true
  · rw [if_pos edge] at closing ⊢
    rw [closing?_append_of_eq_length closing]
    split
    · rw [map_add_map_add]
    · rfl
  · rw [if_neg edge] at closing ⊢
    exact closing?_append_of_none closing rest

theorem closingIn?_le {literal : OpenLiteral} {rest : Text} {n : Nat}
    (closed : literal.closingIn? rest = some n) : n ≤ rest.length := by
  rw [closingIn?] at closed
  split at closed
  · split at closed
    · obtain ⟨m, inner, rfl⟩ := Option.map_eq_some_iff.mp closed
      have bounds := closing?_bounds inner
      rw [List.length_tail] at bounds
      omega
    · cases closed
      exact Nat.zero_le _
  · exact (closing?_bounds closed).2

theorem Formed.closingIn?_append_of_lt {literal : OpenLiteral} (formed : literal.Formed)
    {body : Text} {n : Nat} (closed : literal.closingIn? body = some n) (inside : n < body.length)
    (rest : Text) : literal.closingIn? (body ++ rest) = some n := by
  have whole : closing? literal.delimiter (literal.text.tail ++ body) =
      some (literal.text.tail.length + n) := by
    rw [formed.closing?_append, closed, Option.map_some]
  have longer := closing?_append_of_lt whole (by rw [List.length_append]; omega) rest
  rw [List.append_assoc, formed.closing?_append] at longer
  obtain ⟨m, found, same⟩ := Option.map_eq_some_iff.mp longer
  rw [found, Nat.add_left_cancel same]

def prolonged (literal : OpenLiteral) (body : Text) : OpenLiteral :=
  { literal with
    text := literal.text ++ body
    closedAtEdge := (literal.closingIn? body).isSome }

@[simp] theorem prolonged_delimiter (literal : OpenLiteral) (body : Text) :
    (literal.prolonged body).delimiter = literal.delimiter := rfl

@[simp] theorem prolonged_text (literal : OpenLiteral) (body : Text) :
    (literal.prolonged body).text = literal.text ++ body := rfl

@[simp] theorem prolonged_position (literal : OpenLiteral) (body : Text) :
    (literal.prolonged body).position = literal.position := rfl

theorem extend_eq_prolonged {literal : OpenLiteral} {body : Text}
    (whole : ∀ n, literal.closingIn? body = some n → body.length ≤ n) :
    literal.extend body (literal.closingIn? body) = .stillOpen (literal.prolonged body) := by
  cases closing : literal.closingIn? body with
  | none => simp [extend, prolonged, closing]
  | some n =>
    have far := whole n closing
    rw [extend, if_neg (Nat.not_lt.mpr far), prolonged, closing, Option.isSome_some]

theorem Formed.prolonged {literal : OpenLiteral} (formed : literal.Formed) {body : Text}
    (whole : ∀ n, literal.closingIn? body = some n → body.length ≤ n) :
    (literal.prolonged body).Formed := by
  obtain ⟨content, text, -⟩ := formed_iff.mp formed
  have closing := formed.closing?_append body
  rw [text, List.tail_cons] at closing
  rw [formed_iff, prolonged_text, text, prolonged_delimiter]
  refine ⟨content ++ body, rfl, ?_⟩
  rw [closing]
  rcases Option.eq_none_or_eq_some (literal.closingIn? body) with none | ⟨n, found⟩
  · simp [OpenLiteral.prolonged, none]
  · have same : n = body.length := Nat.le_antisymm (closingIn?_le found) (whole n found)
    simp [OpenLiteral.prolonged, found, same]

/-- A literal that does not close before the end of a body closes in what follows, or not at all. -/
theorem Formed.closingIn?_append_of_le {literal : OpenLiteral} (formed : literal.Formed)
    {body : Text} (whole : ∀ n, literal.closingIn? body = some n → body.length ≤ n) (rest : Text) :
    literal.closingIn? (body ++ rest) =
      ((literal.prolonged body).closingIn? rest).map (body.length + ·) := by
  obtain ⟨content, text, -⟩ := formed_iff.mp formed
  have before := formed.closing?_append (body ++ rest)
  have after := (formed.prolonged whole).closing?_append rest
  simp only [prolonged_delimiter, prolonged_text, text, List.cons_append, List.tail_cons,
    List.length_append, List.append_assoc] at before after
  rw [before] at after
  rcases Option.eq_none_or_eq_some ((literal.prolonged body).closingIn? rest) with none | ⟨m, found⟩
  · rw [none, Option.map_none] at after ⊢
    exact Option.map_eq_none_iff.mp after
  · rw [found, Option.map_some] at after ⊢
    obtain ⟨k, first, same⟩ := Option.map_eq_some_iff.mp after
    rw [first]
    congr 1
    omega

theorem resume_eq_extend {literal : OpenLiteral} {body : Text}
    (goesOn : literal.closedAtEdge = true → body.head? = some literal.delimiter) :
    literal.resume body = literal.extend body (literal.closingIn? body) := by
  simp only [resume, closingIn?, Nat.add_comm 1]
  split
  · rename_i edge
    rw [if_pos (goesOn edge), if_pos (goesOn edge)]
  · rfl

theorem resume_eq_closed {literal : OpenLiteral} {body : Text} (edge : literal.closedAtEdge = true)
    (other : body.head? ≠ some literal.delimiter) :
    literal.resume body = .closed literal.token 0 := by
  rw [resume, if_pos edge, if_neg other]

/-- All that going on with a body can come to. -/
theorem resume_cases (literal : OpenLiteral) (body : Text) :
    (∃ n, literal.closingIn? body = some n ∧ (n < body.length ∨ body = []) ∧
      literal.resume body =
        .closed { literal with text := literal.text ++ body.take n }.token n) ∨
    ((∀ n, literal.closingIn? body = some n → body.length ≤ n) ∧
      literal.resume body = .stillOpen (literal.prolonged body)) := by
  by_cases leaves : literal.closedAtEdge = true ∧ body.head? ≠ some literal.delimiter
  · obtain ⟨edge, other⟩ := leaves
    refine Or.inl ⟨0, by rw [closingIn?, if_pos edge, if_neg other], ?_, ?_⟩
    · cases body with
      | nil => exact Or.inr rfl
      | cons c body => exact Or.inl (Nat.succ_pos _)
    · rw [resume_eq_closed edge other, List.take_zero, List.append_nil]
  · have goesOn : literal.closedAtEdge = true → body.head? = some literal.delimiter := by
      intro edge
      apply Classical.byContradiction
      intro other
      exact leaves ⟨edge, other⟩
    rw [resume_eq_extend goesOn]
    by_cases inside : ∃ n, literal.closingIn? body = some n ∧ n < body.length
    · obtain ⟨n, closed, fits⟩ := inside
      exact Or.inl ⟨n, closed, Or.inl fits, by rw [closed, extend, if_pos fits]⟩
    · have whole : ∀ n, literal.closingIn? body = some n → body.length ≤ n := by
        intro n closed
        apply Nat.le_of_not_lt
        intro fits
        exact inside ⟨n, closed, fits⟩
      exact Or.inr ⟨whole, extend_eq_prolonged whole⟩

theorem resume_eq_stillOpen {literal further : OpenLiteral} {body : Text}
    (opened : literal.resume body = .stillOpen further) :
    further = literal.prolonged body ∧ ∀ n, literal.closingIn? body = some n → body.length ≤ n := by
  rcases literal.resume_cases body with ⟨n, -, -, resumed⟩ | ⟨whole, resumed⟩
  · rw [resumed] at opened
    cases opened
  · rw [resumed] at opened
    cases opened
    exact ⟨rfl, whole⟩

theorem resume_eq_token {literal : OpenLiteral} {body : Text} {token : Token} {n : Nat}
    (closed : literal.resume body = .closed token n) :
    token = { literal with text := literal.text ++ body.take n }.token ∧
      literal.closingIn? body = some n ∧ (n < body.length ∨ body = []) := by
  rcases literal.resume_cases body with ⟨m, closing, short, resumed⟩ | ⟨-, resumed⟩
  · rw [resumed] at closed
    cases closed
    exact ⟨rfl, closing, short⟩
  · rw [resumed] at closed
    cases closed

end CardDeck.OpenLiteral
