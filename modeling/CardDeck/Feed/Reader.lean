import CardDeck.Card
import CardDeck.Failure
import CardDeck.Feed.Source

set_option autoImplicit false

namespace CardDeck

/-- A card, or the error that stands in its place. -/
abbrev Item := Except SourceError Card

structure Reader where
  encoding : Encoding
  source : Source
  line : Nat := 0
  finished : Bool := false
deriving DecidableEq, Repr

namespace Reader

/-- The next card or error, and the reader after it. -/
def next (reader : Reader) : Option (Item × Reader) :=
  if reader.finished then
    none
  else
    let line := reader.line + 1
    match reader.source.nextLine with
    | .exhausted => none
    | .failed reason =>
      some (.error (.read line reason),
        { reader with source := { reader.source with bytes := [] }, finished := true })
    | .complete bytes rest =>
      match reader.encoding.decode bytes with
      | .ok text => some (.ok (Card.ofLine line text), { reader with source := rest, line := line })
      | .error offset =>
        some (.error (.decode line reader.encoding offset),
          { reader with source := rest, line := line, finished := true })

/-- A bound on the number of items that are left. -/
def size (reader : Reader) : Nat :=
  if reader.finished then 0 else reader.source.bytes.length + 1

theorem size_next_lt {reader rest : Reader} {item : Item}
    (read : reader.next = some (item, rest)) : rest.size < reader.size := by
  simp only [next] at read
  split at read
  · cases read
  next going =>
    split at read
    · cases read
    · cases read
      simp [size, going]
    next taken =>
      have shorter := Source.nextLine_length_lt taken
      split at read <;> cases read <;> simp [size, going]
      omega

end Reader

end CardDeck
