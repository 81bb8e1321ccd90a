import CardDeck.Token.Literal

set_option autoImplicit false

namespace CardDeck

/-- Text that leaves a literal open: every delimiter in it is one of two that stand together. -/
inductive Inner (delimiter : Char) : Text → Prop where
  | nil : Inner delimiter []
  | char {c : Char} {rest : Text} (other : c ≠ delimiter) (inner : Inner delimiter rest) :
      Inner delimiter (c :: rest)
  | doubled {rest : Text} (inner : Inner delimiter rest) :
      Inner delimiter (delimiter :: delimiter :: rest)

theorem map_add_map_add (found : Option Nat) (first second : Nat) :
    (found.map (second + ·)).map (first + ·) = found.map (first + second + ·) := by
  cases found with
  | none => rfl
  | some n => rw [Option.map_some, Option.map_some, Option.map_some, Nat.add_assoc]

theorem closing?_cons_of_ne {delimiter c : Char} (other : c ≠ delimiter) (rest : Text) :
    closing? delimiter (c :: rest) = (closing? delimiter rest).map (1 + ·) := by
  simp only [Nat.add_comm 1]
  cases rest <;> simp [closing?, other]

theorem closing?_doubled (delimiter : Char) (rest : Text) :
    closing? delimiter (delimiter :: delimiter :: rest) =
      (closing? delimiter rest).map (2 + ·) := by
  simp [closing?, Nat.add_comm 2]

theorem closing?_single {delimiter : Char} {rest : Text} (alone : rest.head? ≠ some delimiter) :
    closing? delimiter (delimiter :: rest) = some 1 := by
  cases rest with
  | nil => simp [closing?]
  | cons c rest =>
    have other : c ≠ delimiter := fun same => alone (by rw [same, List.head?_cons])
    simp [closing?, other]

/-- Text that leaves the literal open is passed over whole. -/
theorem closing?_inner_append {delimiter : Char} {front : Text} (inner : Inner delimiter front)
    (back : Text) :
    closing? delimiter (front ++ back) = (closing? delimiter back).map (front.length + ·) := by
  induction inner with
  | nil => simp
  | char other _ ih =>
    rw [List.cons_append, closing?_cons_of_ne other, ih, map_add_map_add, List.length_cons,
      Nat.add_comm 1]
  | doubled _ ih =>
    rw [List.cons_append, List.cons_append, closing?_doubled, ih, map_add_map_add,
      List.length_cons, List.length_cons, Nat.add_comm 2]

/-- A text either leaves the literal open, or has the delimiter that closes it. -/
theorem inner_or_closes (delimiter : Char) (text : Text) :
    Inner delimiter text ∨ ∃ front back, text = front ++ delimiter :: back ∧
      Inner delimiter front ∧ back.head? ≠ some delimiter := by
  induction n : text.length using Nat.strongRecOn generalizing text with
  | ind n ih =>
    cases text with
    | nil => exact Or.inl .nil
    | cons c rest =>
      simp only [List.length_cons] at n
      by_cases same : c = delimiter
      · subst same
        by_cases alone : rest.head? = some c
        · obtain ⟨rest, rfl⟩ := List.head?_eq_some_iff.mp alone
          rcases ih rest.length (by simp at n; omega) rest rfl with
            inner | ⟨front, back, rfl, inner, single⟩
          · exact Or.inl (.doubled inner)
          · exact Or.inr ⟨c :: c :: front, back, rfl, .doubled inner, single⟩
        · exact Or.inr ⟨[], rest, rfl, .nil, alone⟩
      · rcases ih rest.length (by omega) rest rfl with inner | ⟨front, back, rfl, inner, single⟩
        · exact Or.inl (.char same inner)
        · exact Or.inr ⟨c :: front, back, rfl, .char same inner, single⟩

theorem closing?_of_inner {delimiter : Char} {text : Text} (inner : Inner delimiter text) :
    closing? delimiter text = none := by
  have passed := closing?_inner_append inner []
  rwa [List.append_nil] at passed

theorem closing?_of_closes {delimiter : Char} {front back : Text} (inner : Inner delimiter front)
    (alone : back.head? ≠ some delimiter) :
    closing? delimiter (front ++ delimiter :: back) = some (front.length + 1) := by
  rw [closing?_inner_append inner, closing?_single alone, Option.map_some]

theorem closing?_eq_none_iff {delimiter : Char} {text : Text} :
    closing? delimiter text = none ↔ Inner delimiter text := by
  constructor
  · intro opened
    rcases inner_or_closes delimiter text with inner | ⟨front, back, rfl, inner, alone⟩
    · exact inner
    · rw [closing?_of_closes inner alone] at opened
      cases opened
  · exact closing?_of_inner

theorem closing?_eq_some_iff {delimiter : Char} {text : Text} {n : Nat} :
    closing? delimiter text = some n ↔ ∃ front back, text = front ++ delimiter :: back ∧
      Inner delimiter front ∧ back.head? ≠ some delimiter ∧ n = front.length + 1 := by
  constructor
  · intro closed
    rcases inner_or_closes delimiter text with inner | ⟨front, back, rfl, inner, alone⟩
    · rw [closing?_of_inner inner] at closed
      cases closed
    · rw [closing?_of_closes inner alone] at closed
      exact ⟨front, back, rfl, inner, alone, (Option.some.inj closed).symm⟩
  · rintro ⟨front, back, rfl, inner, alone, rfl⟩
    exact closing?_of_closes inner alone

theorem closing?_append_of_lt {delimiter : Char} {text : Text} {n : Nat}
    (closed : closing? delimiter text = some n) (inside : n < text.length) (rest : Text) :
    closing? delimiter (text ++ rest) = some n := by
  obtain ⟨front, back, rfl, inner, alone, rfl⟩ := closing?_eq_some_iff.mp closed
  have more : back ≠ [] := by
    rintro rfl
    simp at inside
  rw [List.append_assoc, List.cons_append]
  apply closing?_of_closes inner
  rwa [List.head?_append, Option.or_of_isSome (List.isSome_head?.mpr more)]

/-- A delimiter that ends a text closes there unless the text after it starts with another one. -/
theorem closing?_append_of_eq_length {delimiter : Char} {text : Text}
    (closed : closing? delimiter text = some text.length) (rest : Text) :
    closing? delimiter (text ++ rest) =
      if rest.head? = some delimiter then
        (closing? delimiter rest.tail).map (text.length + 1 + ·)
      else
        some text.length := by
  obtain ⟨front, back, rfl, inner, alone, length⟩ := closing?_eq_some_iff.mp closed
  have last : back = [] := List.eq_nil_of_length_eq_zero (by
    simp only [List.length_append, List.length_cons] at length
    omega)
  subst last
  rw [List.append_assoc, List.cons_append, List.nil_append]
  split
  · rename_i doubled
    obtain ⟨rest, rfl⟩ := List.head?_eq_some_iff.mp doubled
    rw [closing?_inner_append inner, closing?_doubled, map_add_map_add, List.tail_cons,
      List.length_append, List.length_singleton]
  · rename_i single
    rw [closing?_of_closes inner single, length]

theorem closing?_append_of_none {delimiter : Char} {text : Text}
    (opened : closing? delimiter text = none) (rest : Text) :
    closing? delimiter (text ++ rest) = (closing? delimiter rest).map (text.length + ·) :=
  closing?_inner_append (closing?_eq_none_iff.mp opened) rest

end CardDeck
