import CardDeck.Text.Basic

set_option autoImplicit false

namespace CardDeck

structure Position where
  line : Nat
  column : Nat
deriving DecidableEq, Repr

namespace Position

/-- Source order: by line, and on one line by column. -/
instance : LT Position where
  lt p q := p.line < q.line ∨ p.line = q.line ∧ p.column < q.column

instance : LE Position where
  le p q := p.line < q.line ∨ p.line = q.line ∧ p.column ≤ q.column

theorem lt_iff {p q : Position} :
    p < q ↔ p.line < q.line ∨ p.line = q.line ∧ p.column < q.column := Iff.rfl

theorem le_iff {p q : Position} :
    p ≤ q ↔ p.line < q.line ∨ p.line = q.line ∧ p.column ≤ q.column := Iff.rfl

instance (p q : Position) : Decidable (p < q) := decidable_of_iff _ lt_iff.symm

instance (p q : Position) : Decidable (p ≤ q) := decidable_of_iff _ le_iff.symm

theorem lt_trans {p q r : Position} (before : p < q) (after : q < r) : p < r := by
  simp only [lt_iff] at *
  omega

def right (position : Position) (count : Nat) : Position :=
  { position with column := position.column + count }

@[simp] theorem right_column (position : Position) (count : Nat) :
    (position.right count).column = position.column + count := rfl

@[simp] theorem right_right (position : Position) (m n : Nat) :
    (position.right m).right n = position.right (m + n) := by
  simp [right, Nat.add_assoc]

def text (position : Position) : Text :=
  Decimal.text position.line ++ ':' :: Decimal.text position.column

def ascending (positions : List Position) : List Position :=
  positions.mergeSort fun p q => p ≤ q

end Position

end CardDeck
