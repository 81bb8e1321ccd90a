import CardDeck.Proofs.Statement.Safety

set_option autoImplicit false

namespace CardDeck

/-- The cards fall into the statements, each of which goes on as long as cards continue it. -/
structure Partition (statements : List Statement) (cards : List Card) : Prop where
  cards : statements.flatMap Statement.cards = cards
  formed : ∀ statement ∈ statements, ∃ first rest, statement.cards = first :: rest ∧
    statement.label = first.label ∧ ∀ card ∈ rest, card.isContinuation = true
  fresh : ∀ statement ∈ statements.tail, statement.first.isContinuation = false

namespace Partition

theorem nil : Partition [] [] := by
  refine ⟨rfl, ?_, ?_⟩
  · intro statement member
    cases member
  · intro statement member
    cases member

theorem fresh_of_head {statements : List Statement} {cards : List Card}
    (partition : Partition statements cards)
    (head : ∀ card, cards.head? = some card → card.isContinuation = false) :
    ∀ statement ∈ statements, statement.first.isContinuation = false := by
  intro statement member
  cases statements with
  | nil => cases member
  | cons front later =>
    rcases List.mem_cons.mp member with here | there
    · apply head
      rw [← partition.cards, here]
      rfl
    · exact partition.fresh statement there

theorem cons {statement : Statement} {later : List Statement} {first : Card}
    {continuations cards : List Card} (same : statement.cards = first :: continuations)
    (follow : ∀ card ∈ continuations, card.isContinuation = true)
    (head : ∀ card, cards.head? = some card → card.isContinuation = false)
    (partition : Partition later cards) :
    Partition (statement :: later) ((first :: continuations) ++ cards) := by
  constructor
  · rw [List.flatMap_cons, same, partition.cards]
  · intro other member
    rcases List.mem_cons.mp member with here | there
    · refine ⟨first, continuations, by rw [here, same], ?_, follow⟩
      rw [here, Statement.label, (List.cons.inj same).1]
    · exact partition.formed other there
  · exact partition.fresh_of_head head

end Partition

namespace Statements

/-- Where the limit does not overflow, the statements of items without an error partition them. -/
theorem runItems_partition_of_fits {options : Options} {items : List Item}
    (clean : Clean items) (lines : Ascending (cardsOf items)) (fits : ¬ options.Overflows items) :
    ∃ statements, runItems options items = { results := statements.map .ok } ∧
      Partition statements (cardsOf (options.relevant items)) := by
  induction items, clean using options.clean_induction with
  | nothing items clean empty next =>
    refine ⟨[], runItems_of_none next, ?_⟩
    rw [empty]
    exact Partition.nil
  | group items first continuations rest clean further opens ih =>
    rcases opens.next_cases (opens.ascending lines) with ⟨top, joined, -⟩ |
      ⟨counted, ⟨error, more, broken, -⟩ | ⟨statement, -, next, -, cards, -⟩⟩
    · obtain ⟨card, continuations, rfl⟩ := List.exists_cons_of_ne_nil joined
      exact absurd (Options.overflows_of_opens top opens) fits
    · exact absurd broken further.ne_error
    · rw [opens.overflows_iff counted] at fits
      obtain ⟨later, run, partition⟩ := ih (opens.ascending_rest lines) fits
      refine ⟨statement :: later, ?_, ?_⟩
      · rw [runItems_of_statement next, run]
        rfl
      · rw [opens.relevant, cardsOf_append, cardsOf_map_ok]
        apply Partition.cons cards opens.follow _ partition
        intro card head
        apply opens.fresh
        rw [further.relevant.head?, head]
        rfl

theorem runItems_partition {options : Options} {items : List Item}
    (clean : Clean items) (lines : Ascending (cardsOf items))
    (counted : options.maxContinuations ≠ some topLimit) :
    ∃ statements, runItems options items = { results := statements.map .ok } ∧
      Partition statements (cardsOf (options.relevant items)) :=
  runItems_partition_of_fits clean lines fun overflow => counted overflow.1

/-- The statements of cards that are all read partition those that are not ignored. -/
theorem run_partition {options : Options} {feed : Feed} {cards : List Card}
    (items : feed.items = cards.map .ok) (lines : Ascending cards)
    (counted : options.maxContinuations ≠ some topLimit) :
    ∃ statements, (ofFeed options feed).run = { results := statements.map .ok } ∧
      Partition statements (cards.filter fun card => !options.ignores card) := by
  have clean : Clean feed.items := items ▸ Clean.map_ok cards
  have found : cardsOf feed.items = cards := by rw [items, cardsOf_map_ok]
  obtain ⟨statements, run, partition⟩ := runItems_partition clean (found.symm ▸ lines) counted
  refine ⟨statements, ?_, ?_⟩
  · rw [run_eq_runItems rfl]
    exact run
  · rw [cardsOf_relevant, found] at partition
    exact partition

/--
A deck that begins with a continuation, with a stray character before a comment and more cards
than the limit, and with a literal that is still open when a card without mark follows.
-/
def brokenDeck : List Card :=
  [Card.ofLine 1 "     1A = ?".toList, Card.ofLine 2 "C".toList,
    Card.ofLine 3 "     2'IT".toList, Card.ofLine 5 "      B = 'S".toList,
    Card.ofLine 6 "     0END".toList]

theorem run_partition_broken :
    ∃ statements, (ofFeed { comments := true, maxContinuations := some 0 }
        (.listed (brokenDeck.map .ok))).run = { results := statements.map .ok } ∧
      Partition statements
        [Card.ofLine 1 "     1A = ?".toList, Card.ofLine 3 "     2'IT".toList,
          Card.ofLine 5 "      B = 'S".toList, Card.ofLine 6 "     0END".toList] := by
  have lines : Ascending brokenDeck := by
    unfold Ascending
    decide
  exact run_partition (Feed.items_listed _) lines (by decide)

end Statements

end CardDeck
