import CardDeck.Feed.Reader
import CardDeck.Journal

set_option autoImplicit false

namespace CardDeck

inductive Feed where
  | listed (items : List Item)
  | reading (reader : Reader)

namespace Feed

/-- The cards of a text. -/
def ofText (text : Text) : Feed :=
  reading { encoding := .utf8, source := { bytes := Encoding.utf8.encode text } }

/-- The cards of a source of bytes in the encoding. -/
def ofSource (encoding : Encoding) (source : Source) : Feed :=
  reading { encoding := encoding, source := source }

/-- The next item, and the feed after it. -/
def next : Feed → Option (Item × Feed)
  | listed [] => none
  | listed (item :: items) => some (item, listed items)
  | reading reader => reader.next.map fun read => (read.1, reading read.2)

/-- What the journal says of an item as it is taken; only readers keep one. -/
def records : Feed → Item → List Record
  | listed _, _ => []
  | reading _, .ok card => [.card card]
  | reading _, .error error => [.failure error]

/-- A bound on the number of items that are left. -/
def size : Feed → Nat
  | listed items => items.length
  | reading reader => reader.size

theorem size_next_lt {feed rest : Feed} {item : Item} (taken : feed.next = some (item, rest)) :
    rest.size < feed.size := by
  cases feed with
  | listed items =>
    cases items with
    | nil => cases taken
    | cons => cases taken; simp [size]
  | reading reader =>
    simp only [next, Option.map_eq_some_iff, Prod.mk.injEq] at taken
    obtain ⟨read, taken, -, rfl⟩ := taken
    exact Reader.size_next_lt taken

/-- Number of bytes that were not taken from the source. -/
def unread : Feed → Nat
  | listed _ => 0
  | reading reader => reader.source.bytes.length

/-- All items that are left. -/
def items (feed : Feed) : List Item :=
  match _ : feed.next with
  | none => []
  | some (item, rest) => item :: rest.items
termination_by feed.size
decreasing_by exact size_next_lt (by assumption)

theorem items_of_next_none {feed : Feed} (ended : feed.next = none) : feed.items = [] := by
  rw [items]
  split
  · rfl
  next taken => rw [ended] at taken; cases taken

theorem items_of_next_some {feed rest : Feed} {item : Item}
    (taken : feed.next = some (item, rest)) : feed.items = item :: rest.items := by
  rw [items]
  split
  next ended => rw [taken] at ended; cases ended
  next again =>
    rw [taken] at again
    cases again
    rfl

@[simp] theorem items_listed (items : List Item) : (listed items).items = items := by
  induction items with
  | nil => exact items_of_next_none rfl
  | cons item items ih =>
    have taken : (listed (item :: items)).next = some (item, listed items) := rfl
    rw [items_of_next_some taken, ih]

end Feed

end CardDeck
