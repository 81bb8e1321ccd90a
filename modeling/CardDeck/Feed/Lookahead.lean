import CardDeck.Feed.Basic

set_option autoImplicit false

namespace CardDeck

structure Lookahead where
  feed : Feed
  /-- The item that was taken from the feed and not yet used. -/
  ahead : Option Item := none

/-- What an operation on a lookahead comes to. -/
structure Pull where
  item : Option Item
  records : List Record
  rest : Lookahead

namespace Lookahead

/-- All items that are left. -/
def items (cards : Lookahead) : List Item := cards.ahead.toList ++ cards.feed.items

def size (cards : Lookahead) : Nat := cards.ahead.toList.length + cards.feed.size

/-- The lookahead without the item that was not yet used. -/
def drop (cards : Lookahead) : Lookahead := { cards with ahead := none }

/-- Shows the next item and leaves it. -/
def peek (cards : Lookahead) : Pull :=
  match cards.ahead with
  | some item => ⟨some item, [], cards⟩
  | none =>
    match cards.feed.next with
    | none => ⟨none, [], cards⟩
    | some (item, rest) => ⟨some item, cards.feed.records item, ⟨rest, some item⟩⟩

def next (cards : Lookahead) : Pull :=
  let shown := cards.peek
  { shown with rest := shown.rest.drop }

/-- Takes the next item if it is accepted, and leaves it otherwise. -/
def nextIf (accepts : Item → Bool) (cards : Lookahead) : Pull :=
  let shown := cards.peek
  if shown.item.any accepts then { shown with rest := shown.rest.drop }
  else { shown with item := none }

/-- Takes the next item if it is a card that continues a statement. -/
def nextContinuation (cards : Lookahead) : Pull :=
  cards.nextIf fun
    | .ok card => card.isContinuation
    | .error _ => false

theorem size_peek_le (cards : Lookahead) : cards.peek.rest.size ≤ cards.size := by
  simp only [peek]
  split
  · exact Nat.le_refl _
  next none =>
    split
    · exact Nat.le_refl _
    next taken =>
      have := Feed.size_next_lt taken
      simp only [size, none, Option.toList_some, Option.toList_none, List.length_cons,
        List.length_nil]
      omega

theorem size_drop_peek_lt {cards : Lookahead} {item : Item} (shown : cards.peek.item = some item) :
    cards.peek.rest.drop.size < cards.size := by
  simp only [peek] at *
  split
  next there => simp [size, drop, there]
  next none =>
    split
    next ended => simp [none, ended] at shown
    next taken =>
      have := Feed.size_next_lt taken
      simp only [size, drop, Option.toList_none, List.length_nil]
      omega

theorem size_next_lt {cards : Lookahead} {item : Item} (taken : cards.next.item = some item) :
    cards.next.rest.size < cards.size := size_drop_peek_lt taken

theorem items_peek (cards : Lookahead) : cards.peek.rest.items = cards.items := by
  simp only [peek]
  split
  · rfl
  next none =>
    split
    · rfl
    next taken => simp [items, none, Feed.items_of_next_some taken]

theorem item_peek (cards : Lookahead) : cards.peek.item = cards.items.head? := by
  simp only [peek]
  split
  next there => simp [items, there]
  next none =>
    split
    next ended => simp [items, none, Feed.items_of_next_none ended]
    next taken => simp [items, none, Feed.items_of_next_some taken]

def count (cards : Lookahead) : Nat × List Record × Lookahead :=
  match _ : cards.next.item with
  | none => (0, cards.next.records, cards.next.rest)
  | some _ =>
    let (number, records, rest) := count cards.next.rest
    (number + 1, cards.next.records ++ records, rest)
termination_by cards.size
decreasing_by exact size_next_lt (by assumption)

end Lookahead

end CardDeck
