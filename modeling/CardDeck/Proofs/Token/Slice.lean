import CardDeck.Proofs.Token.Entry

set_option autoImplicit false

namespace CardDeck

/-- The text from one offset up to another, if it reaches that far. -/
def Text.slice? (text : Text) (start stop : Nat) : Option Text :=
  if start ≤ stop ∧ stop ≤ text.length then some ((text.drop start).take (stop - start)) else none

theorem Text.slice?_eq_some {text : Text} {start stop : Nat} (order : start ≤ stop)
    (within : stop ≤ text.length) :
    text.slice? start stop = some ((text.drop start).take (stop - start)) :=
  if_pos ⟨order, within⟩

theorem Text.slice?_clamped (text : Text) {start stop : Nat} (order : start ≤ stop) :
    text.slice? (min start text.length) (min stop text.length) =
      some ((text.drop start).take (stop - start)) := by
  rw [slice?_eq_some (by omega) (Nat.min_le_right _ _)]
  by_cases reached : start ≤ text.length
  · rw [Nat.min_eq_left reached]
    congr 1
    by_cases whole : stop ≤ text.length
    · rw [Nat.min_eq_left whole]
    · have short : (text.drop start).length = text.length - start := List.length_drop
      rw [Nat.min_eq_right (Nat.le_of_not_le whole), List.take_of_length_le (Nat.le_of_eq short),
        List.take_of_length_le (by omega)]
  · have beyond := Nat.le_of_not_le reached
    rw [Nat.min_eq_right beyond, List.drop_length, List.drop_of_length_le beyond, List.take_nil,
      List.take_nil]

namespace Card

/-- All that is cut out of the body of the card is there, and so is all that it was padded to. -/
structure Sliced (card : Card) : Prop where
  entries : ∀ offset, ∀ entry ∈ card.entriesFrom offset, ∃ start, offset ≤ start ∧
    entry.position = card.placeOf start ∧
    card.body.slice? start (start + entry.length) = some entry.text
  resumed : ∀ literal token consumed,
    OpenLiteral.resume literal card.body = .closed token consumed →
    ∃ taken, card.body.slice? 0 consumed = some taken ∧ token.lexeme = literal.text ++ taken

theorem sliced (card : Card) : card.Sliced := by
  constructor
  · intro offset entry member
    obtain ⟨before, c, rest, body, -, found⟩ := exists_front_of_mem_entries member
    obtain ⟨text, fits⟩ := Entry.front_text ((card.placeOf offset).right before.length) c rest
    refine ⟨offset + before.length, Nat.le_add_right _ _, ?_, ?_⟩
    · rw [found, Entry.front_position, placeOf, placeOf, Position.right, Nat.add_assoc]
    · have width : card.body.length - offset = before.length + (rest.length + 1) := by
        rw [← List.length_drop, body, List.length_append, List.length_cons]
      rw [← found] at text fits
      rw [Text.slice?_eq_some (Nat.le_add_right _ _) (by omega), Nat.add_sub_cancel_left,
        ← List.drop_drop, body, List.drop_left, text]
  · intro literal token consumed closed
    rcases literal.resume_cases card.body with ⟨n, closing, -, resumed⟩ | ⟨-, resumed⟩
    · rw [resumed] at closed
      cases closed
      refine ⟨card.body.take consumed, ?_, rfl⟩
      exact Text.slice?_eq_some (Nat.zero_le _) (OpenLiteral.closingIn?_le closing)
    · rw [resumed] at closed
      cases closed

/-- The columns that a line has, 80 of them at most. -/
def columns (text : Text) : Text := text.dropFinalReturn.take cardWidth

/-- A body is cut out of the columns that there are, and padded by as many as it is short of. -/
def Padded (line : Nat) (text : Text) : Prop :=
  ∃ cut, (columns text).slice? (min (bodyColumn - 1) (columns text).length)
      (min (trailerColumn - 1) (columns text).length) = some cut ∧
    cut.length ≤ bodyWidth ∧
    (ofLine line text).body = cut ++ List.replicate (bodyWidth - cut.length) ' '

theorem ofLine_padded (line : Nat) (text : Text) : Padded line text := by
  refine ⟨_, Text.slice?_clamped _ (by decide), ?_, rfl⟩
  exact List.length_take_le _ _

end Card

end CardDeck
