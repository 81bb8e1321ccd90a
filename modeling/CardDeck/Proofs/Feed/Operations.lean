import CardDeck.Proofs.Feed.Drawn

set_option autoImplicit false

namespace CardDeck

def Item.isContinuation : Item → Bool
  | .ok card => card.isContinuation
  | .error _ => false

theorem Feed.exists_next {feed : Feed} {item : Item} {items : List Item}
    (more : feed.items = item :: items) :
    ∃ rest, feed.next = some (item, rest) ∧ rest.items = items := by
  cases taken : feed.next with
  | none =>
    rw [items_of_next_none taken] at more
    cases more
  | some next =>
    rw [items_of_next_some taken, List.cons.injEq] at more
    exact ⟨next.2, by rw [← more.1], more.2⟩

theorem Reader.nothing_behind_error {reader : Reader} {front back : List Item} {error : SourceError}
    (split : (Feed.reading reader).items = front ++ .error error :: back) : back = [] := by
  induction front generalizing reader with
  | nil =>
    obtain ⟨rest, taken, left⟩ := Feed.exists_next split
    obtain ⟨⟨item, next⟩, read, same⟩ := Option.map_eq_some_iff.mp taken
    cases same
    obtain ⟨-, -, -, ⟨⟨card, same⟩, -⟩ | ⟨-, finished⟩⟩ := next_taken read
    · cases same
    · rw [← left]
      exact items_of_finished finished
  | cons other front ih =>
    obtain ⟨rest, taken, left⟩ := Feed.exists_next split
    obtain ⟨⟨item, next⟩, read, same⟩ := Option.map_eq_some_iff.mp taken
    cases same
    exact ih left

namespace Operation

/-- What the operation gives when these items are left. -/
def answer (items : List Item) : Operation → Answer
  | next | peek => .item items.head?
  | nextContinuation => .item (items.head?.filter Item.isContinuation)
  | count => .number items.length

/-- The items that are left behind the operation. -/
def rest (items : List Item) : Operation → List Item
  | next => items.tail
  | peek => items
  | nextContinuation => if items.head?.any Item.isContinuation then items.tail else items
  | count => []

/-- The item that is handed over with an answer; a peek only shows it. -/
def handed : Operation → Answer → List Item
  | next, .item item | nextContinuation, .item item => item.toList
  | _, _ => []

def atEnd : Operation → Answer
  | count => .number 0
  | _ => .item none

/-- The answer to the operation says that nothing is left, or that nothing will be. -/
inductive Ends : Operation → Answer → Prop where
  | taken : Ends next (.item none)
  | shown : Ends peek (.item none)
  | failed (error : SourceError) : Ends next (.item (some (.error error)))
  | counted (number : Nat) : Ends count (.number number)

/-- What is handed over comes first among the items, and unless they are counted the others stay. -/
theorem handed_append (items : List Item) (operation : Operation) :
    operation.handed (operation.answer items) ++ operation.rest items <+: items ∧
      (operation ≠ count →
        operation.handed (operation.answer items) ++ operation.rest items = items) := by
  cases operation with
  | next => cases items <;> simp [handed, answer, rest]
  | peek => simp [handed, rest]
  | count => simp [handed, rest]
  | nextContinuation =>
    cases items with
    | nil => simp [handed, answer, rest]
    | cons item items =>
      by_cases fits : item.isContinuation = true <;>
        simp [handed, answer, rest, fits, Option.filter_some]

theorem rest_nil (operation : Operation) : operation.rest [] = [] := by
  cases operation <;> rfl

theorem rest_of_declined {items : List Item}
    (declined : answer items nextContinuation = .item none) :
    rest items nextContinuation = items := by
  simp only [answer, Answer.item.injEq, Option.filter_eq_none_iff] at declined
  apply if_neg
  rw [Option.any_eq_true]
  rintro ⟨item, front, fits⟩
  exact declined item front fits

theorem rest_of_ends {items : List Item} {operation : Operation}
    (stops : ∀ error, items.head? = some (.error error) → items.tail = [])
    (ends : operation.Ends (operation.answer items)) : operation.rest items = [] := by
  generalize given : operation.answer items = answer at ends
  cases ends with
  | taken =>
    have empty := List.head?_eq_none_iff.mp (Answer.item.inj given)
    rw [empty, rest_nil]
  | shown => exact List.head?_eq_none_iff.mp (Answer.item.inj given)
  | failed error => exact stops error (Answer.item.inj given)
  | counted number => rfl

theorem answer_nil (operation : Operation) : operation.answer [] = operation.atEnd := by
  cases operation <;> rfl

end Operation

namespace Lookahead

theorem count_items (cards : Lookahead) :
    cards.count.1 = cards.items.length ∧ cards.count.2.2.items = [] := by
  fun_induction count cards with
  | case1 cards ended =>
    rw [item_next, List.head?_eq_none_iff] at ended
    simp [items_next, ended]
  | case2 cards item taken number records rest same ih =>
    rw [same, items_next] at ih
    rw [item_next] at taken
    obtain ⟨more, split⟩ := List.head?_eq_some_iff.mp taken
    rw [split, List.tail_cons] at ih
    rw [split, List.length_cons]
    exact ⟨congrArg (· + 1) ih.1, ih.2⟩

/-- An operation is told from the items that are left. -/
theorem perform_items (cards : Lookahead) (operation : Operation) :
    (cards.perform operation).answer = operation.answer cards.items ∧
      (cards.perform operation).rest.items = operation.rest cards.items := by
  cases operation with
  | next => exact ⟨congrArg Answer.item cards.item_next, cards.items_next⟩
  | peek => exact ⟨congrArg Answer.item cards.item_peek, cards.items_peek⟩
  | nextContinuation =>
    obtain ⟨item, left⟩ := cards.nextIf_items Item.isContinuation
    exact ⟨congrArg Answer.item item, left⟩
  | count =>
    obtain ⟨number, left⟩ := cards.count_items
    exact ⟨congrArg Answer.number number, left⟩

/-- What the operations give, one after the other. -/
def answers (cards : Lookahead) (operations : List Operation) : List Answer :=
  (cards.performAll operations).map Performed.answer

def after (cards : Lookahead) : List Operation → Lookahead
  | [] => cards
  | operation :: operations => (cards.perform operation).rest.after operations

/-- The items that the operations have handed over. -/
def taken (cards : Lookahead) : List Operation → List Item
  | [] => []
  | operation :: operations =>
    operation.handed (cards.perform operation).answer ++
      (cards.perform operation).rest.taken operations

@[simp] theorem answers_cons (cards : Lookahead) (operation : Operation)
    (operations : List Operation) :
    cards.answers (operation :: operations) =
      (cards.perform operation).answer :: (cards.perform operation).rest.answers operations := rfl

/-- It makes no difference which of the items are kept in the lookahead. -/
theorem answers_congr {cards others : Lookahead} (same : cards.items = others.items)
    (operations : List Operation) : cards.answers operations = others.answers operations := by
  induction operations generalizing cards others with
  | nil => rfl
  | cons operation operations ih =>
    have left : (cards.perform operation).rest.items = (others.perform operation).rest.items := by
      rw [(cards.perform_items operation).2, (others.perform_items operation).2, same]
    rw [answers_cons, answers_cons, (cards.perform_items operation).1,
      (others.perform_items operation).1, same, ih left]

theorem answers_of_nil {cards : Lookahead} (empty : cards.items = [])
    (operations : List Operation) :
    cards.answers operations = operations.map Operation.atEnd := by
  induction operations generalizing cards with
  | nil => rfl
  | cons operation operations ih =>
    obtain ⟨answer, left⟩ := cards.perform_items operation
    rw [empty] at answer left
    rw [answers_cons, List.map_cons, answer, operation.answer_nil,
      ih (left.trans operation.rest_nil)]

theorem answers_filter_peek (cards : Lookahead) (operations : List Operation) :
    (operations.zip (cards.answers operations)).filter (·.1 != .peek) =
      (operations.filter (· != .peek)).zip (cards.answers (operations.filter (· != .peek))) := by
  induction operations generalizing cards with
  | nil => rfl
  | cons operation operations ih =>
    by_cases peeked : operation = .peek
    · have left : (cards.perform operation).rest.items = cards.items := by
        rw [(cards.perform_items operation).2, peeked, Operation.rest]
      simp [peeked, ih, answers_congr (peeked ▸ left)]
    · simp [peeked, ih]

theorem taken_prefix (cards : Lookahead) (operations : List Operation) :
    cards.taken operations <+: cards.items := by
  induction operations generalizing cards with
  | nil => exact List.nil_prefix
  | cons operation operations ih =>
    obtain ⟨answer, left⟩ := cards.perform_items operation
    have front := (Operation.handed_append cards.items operation).1
    have behind := ih (cards.perform operation).rest
    rw [left] at behind
    rw [taken, answer]
    exact ((List.prefix_append_right_inj _).mpr behind).trans front

theorem taken_append {cards : Lookahead} {operations : List Operation}
    (uncounted : .count ∉ operations) :
    cards.taken operations ++ (cards.after operations).items = cards.items := by
  induction operations generalizing cards with
  | nil => rfl
  | cons operation operations ih =>
    rw [List.mem_cons, not_or] at uncounted
    obtain ⟨answer, left⟩ := cards.perform_items operation
    rw [taken, after, List.append_assoc, ih uncounted.2, answer, left]
    exact (Operation.handed_append cards.items operation).2 (Ne.symm uncounted.1)

theorem after_suffix (cards : Lookahead) (operations : List Operation) :
    (cards.after operations).items <:+ cards.items := by
  induction operations generalizing cards with
  | nil => exact List.suffix_refl _
  | cons operation operations ih =>
    have left : (cards.perform operation).rest.items <:+ cards.items := by
      rw [(cards.perform_items operation).2]
      cases operation with
      | next => exact List.tail_suffix _
      | peek => exact List.suffix_refl _
      | count => exact List.nil_suffix
      | nextContinuation =>
        unfold Operation.rest
        dsimp only
        split
        · exact List.tail_suffix _
        · exact List.suffix_refl _
    exact (ih _).trans left

/-- What the operations come to, and what any operation behind them does. -/
structure Exact (cards : Lookahead) (operations : List Operation) : Prop where
  plain : ∀ calls, cards.answers (List.replicate calls .next) =
    (List.range calls).map fun call => .item cards.items[call]?
  /-- These are the items that are handed over, from the first one on. -/
  taken : cards.taken operations <+: cards.items
  peek : ((cards.after operations).perform .peek).answer =
    ((cards.after operations).perform .next).answer
  unpeeked : (operations.zip (cards.answers operations)).filter (·.1 != .peek) =
    (operations.filter (· != .peek)).zip (cards.answers (operations.filter (· != .peek)))
  continuation : ∀ item,
    ((cards.after operations).perform .nextContinuation).answer = .item (some item) ↔
      ((cards.after operations).perform .next).answer = .item (some item) ∧
        item.isContinuation = true
  /-- What does not continue a statement is left in its place. -/
  declined : ((cards.after operations).perform .nextContinuation).answer = .item none →
    ∀ later, ((cards.after operations).perform .nextContinuation).rest.answers later =
      (cards.after operations).answers later
  counted : .count ∉ operations → ∃ number,
    ((cards.after operations).perform .count).answer = .number number ∧
      (cards.taken operations).length + number = cards.items.length
  ended : ∀ operation, operation.Ends ((cards.after operations).perform operation).answer →
    ∀ later, ((cards.after operations).perform operation).rest.answers later =
      later.map Operation.atEnd

theorem tail_of_error {encoding : Encoding} {source : Source} {items : List Item}
    {error : SourceError} (suffix : items <:+ (Feed.ofSource encoding source).items)
    (failed : items.head? = some (.error error)) : items.tail = [] := by
  obtain ⟨front, same⟩ := suffix
  obtain ⟨back, rfl⟩ := List.head?_eq_some_iff.mp failed
  exact Reader.nothing_behind_error same.symm

/-- The operations on the cards of a source neither lose an item nor give one twice. -/
theorem operations_exact (encoding : Encoding) (source : Source) (operations : List Operation) :
    Exact { feed := .ofSource encoding source } operations := by
  generalize start : ({ feed := .ofSource encoding source } : Lookahead) = cards
  have perform := (cards.after operations).perform_items
  have suffix := cards.after_suffix operations
  constructor
  case plain => exact cards.answers_next
  case taken => exact cards.taken_prefix operations
  case peek => rw [(perform .peek).1, (perform .next).1]; rfl
  case unpeeked => exact cards.answers_filter_peek operations
  case continuation =>
    intro item
    rw [(perform .nextContinuation).1, (perform .next).1]
    simp only [Operation.answer, Answer.item.injEq, Option.filter_eq_some_iff]
  case declined =>
    intro none later
    apply answers_congr
    rw [(perform .nextContinuation).1] at none
    rw [(perform .nextContinuation).2, Operation.rest_of_declined none]
  case counted =>
    intro uncounted
    refine ⟨_, (perform .count).1, ?_⟩
    rw [← List.length_append, taken_append uncounted]
  case ended =>
    intro operation ends later
    apply answers_of_nil
    rw [(perform operation).1] at ends
    rw [(perform operation).2]
    apply Operation.rest_of_ends _ ends
    intro error failed
    rw [← start] at suffix failed ⊢
    exact tail_of_error suffix failed

end Lookahead

end CardDeck
