import CardDeck.Feed.Lookahead

set_option autoImplicit false

namespace CardDeck

inductive Operation where
  | next
  | peek
  | nextContinuation
  | count
deriving DecidableEq, Repr

inductive Answer where
  | item (item : Option Item)
  | number (number : Nat)

/-- What an operation gives, what the journal says of it, and the lookahead after it. -/
structure Performed where
  answer : Answer
  records : List Record
  rest : Lookahead

namespace Lookahead

def perform (cards : Lookahead) : Operation → Performed
  | .next => ⟨.item cards.next.item, cards.next.records, cards.next.rest⟩
  | .peek => ⟨.item cards.peek.item, cards.peek.records, cards.peek.rest⟩
  | .nextContinuation =>
    let pull := cards.nextContinuation
    ⟨.item pull.item, pull.records, pull.rest⟩
  | .count =>
    let (number, records, rest) := cards.count
    ⟨.number number, records, rest⟩

/-- Performs one operation after the other. -/
def performAll (cards : Lookahead) : List Operation → List Performed
  | [] => []
  | operation :: operations =>
    let performed := cards.perform operation
    performed :: performed.rest.performAll operations

end Lookahead

end CardDeck
