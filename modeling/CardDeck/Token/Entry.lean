import CardDeck.Card
import CardDeck.Token.Lexeme
import CardDeck.Token.Literal

set_option autoImplicit false

namespace CardDeck

inductive Entry where
  | token (token : Token)
  /-- A literal that reaches the edge; it can only be the last entry. -/
  | unclosed (literal : OpenLiteral)
  | stray (ch : Char) (position : Position)
deriving DecidableEq, Repr

namespace Entry

def length : Entry → Nat
  | token found => found.lexeme.length
  | unclosed found => found.text.length
  | stray _ _ => 1

/-- The literal that starts with the delimiter at the position. -/
def literal (position : Position) (delimiter : Char) (rest : Text) : Entry :=
  match closing? delimiter rest with
  | some n =>
    if n < rest.length then
      .token ⟨.character, delimiter :: rest.take n, position⟩
    else
      .unclosed ⟨delimiter, delimiter :: rest, position, true⟩
  | none => .unclosed ⟨delimiter, delimiter :: rest, position, false⟩

/-- The entry that starts with the character at the position, which is not white. -/
def front (position : Position) (c : Char) (rest : Text) : Entry :=
  if isDelimiter c then
    literal position c rest
  else
    match lexeme? c rest with
    | some (kind, length) => .token ⟨kind, (c :: rest).take length, position⟩
    | none => .stray c position

theorem front_length_pos (position : Position) (c : Char) (rest : Text) :
    0 < (front position c rest).length := by
  simp only [front]
  split
  · simp only [literal]
    split
    · split <;> simp [length]
    · simp [length]
  · split
    next kind length found =>
      have := lexeme?_length_pos found
      simp only [Entry.length, List.length_take, List.length_cons]
      omega
    next => simp [length]

end Entry

/-- The entries of a text that starts at the position. -/
def entries (position : Position) : Text → List Entry
  | [] => []
  | c :: rest =>
    if isWhite c then
      entries (position.right 1) rest
    else
      let entry := Entry.front position c rest
      entry :: entries (position.right entry.length) ((c :: rest).drop entry.length)
termination_by text => text.length
decreasing_by
  · simp
  · have := Entry.front_length_pos position c rest
    simp only [List.length_drop, List.length_cons]
    omega

@[simp] theorem entries_nil (position : Position) : entries position [] = [] := by
  rw [entries]

namespace Card

/-- The place of the character that has the offset in the body. -/
def placeOf (card : Card) (offset : Nat) : Position := ⟨card.line, bodyColumn + offset⟩

/-- The entries of the body from the offset on. -/
def entriesFrom (card : Card) (offset : Nat) : List Entry :=
  entries (card.placeOf offset) (card.body.drop offset)

theorem entriesFrom_of_le (card : Card) {offset : Nat} (outside : bodyWidth ≤ offset) :
    card.entriesFrom offset = [] := by
  rw [entriesFrom, List.drop_of_length_le (by rw [card.body_length]; exact outside), entries_nil]

end Card

end CardDeck
