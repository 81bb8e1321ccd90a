import CardDeck.Proofs.Statement.Drawing
import CardDeck.Proofs.Statement.Safety

set_option autoImplicit false

namespace CardDeck

/-- The bytes of the first lines of a source, with the newlines that end them. -/
def Source.front (source : Source) (lines : Nat) : List UInt8 :=
  ((Lines.pieces newline source.bytes).take lines).flatten

theorem Ascending.find?_behind {front back : List Card} {last : Card}
    (lines : Ascending (front ++ last :: back)) :
    (front ++ last :: back).find? (fun card => last.line < card.line) = back.head? := by
  obtain ⟨-, behind, before⟩ := List.pairwise_append.mp lines
  have passed : ∀ card ∈ front ++ [last], ¬ decide (last.line < card.line) = true := by
    intro card member
    rw [decide_eq_true_iff]
    rcases List.mem_append.mp member with earlier | here
    · exact Nat.lt_asymm (before card earlier last List.mem_cons_self)
    · rw [List.mem_singleton.mp here]
      exact Nat.lt_irrefl _
  rw [List.append_cons, List.find?_append, List.find?_eq_none.mpr passed, Option.none_or]
  cases back with
  | nil => rfl
  | cons card back =>
    have later := (List.pairwise_cons.mp behind).1 card List.mem_cons_self
    exact List.find?_cons_of_pos (decide_eq_true later)

theorem Statement.cards_eq_append (statement : Statement) :
    ∃ front last, statement.cards = front ++ [last] ∧ statement.lastLine = last.line := by
  let draft : Draft := { first := statement.first, continuations := statement.continuations }
  obtain ⟨front, same⟩ := draft.cards_eq_append
  exact ⟨front, draft.lastCard, same, rfl⟩

namespace Options

/-- The first card that is not ignored and stands behind the statement. -/
def nextCard? (options : Options) (statement : Statement) (cards : List Card) : Option Card :=
  (cards.filter fun card => !options.ignores card).find? fun card => statement.lastLine < card.line

theorem nextCard?_of_nextItems {options : Options} {whole items rest : List Item}
    {statement : Statement} (lines : Ascending (cardsOf whole)) (suffix : items <:+ whole)
    (given : Statements.nextItems options items = .ok (some (.ok statement, rest))) :
    (rest = [] ∧ options.nextCard? statement (cardsOf whole) = none) ∨
      ∃ card more, rest = .ok card :: more ∧
        options.nextCard? statement (cardsOf whole) = some card := by
  obtain ⟨passed, rfl⟩ := suffix
  have ascending : Ascending (cardsOf items) := by
    rw [cardsOf_append] at lines
    exact (List.pairwise_append.mp lines).2.1
  have kept : (cardsOf (passed ++ items)).filter (fun card => !options.ignores card) =
      cardsOf (options.relevant passed) ++ cardsOf (options.relevant items) := by
    rw [cardsOf_append, List.filter_append, cardsOf_relevant, cardsOf_relevant]
  rcases options.relevant_cases items with ⟨-, none⟩ | ⟨error, left, -, -, failed⟩ |
    ⟨first, continuations, left, opens⟩
  · cases none.symm.trans given
  · cases failed.symm.trans given
  · rcases opens.next_cases (opens.ascending ascending) with ⟨-, -, fault⟩ |
      ⟨-, ⟨error, more, -, failed⟩ | ⟨made, whole, next, -, cards, -⟩⟩
    · cases fault.symm.trans given
    · cases failed.symm.trans given
    · cases next.symm.trans given
      obtain ⟨front, last, split, here⟩ := statement.cards_eq_append
      have group : cardsOf (options.relevant items) =
          front ++ last :: cardsOf (options.relevant rest) := by
        rw [opens.relevant, cardsOf_append, cardsOf_map_ok, ← cards, split, ← List.append_cons]
      rw [group, ← List.append_assoc] at kept
      have found : options.nextCard? statement (cardsOf (passed ++ items)) =
          (cardsOf (options.relevant rest)).head? := by
        rw [nextCard?, here, kept]
        apply Ascending.find?_behind
        rw [← kept]
        exact lines.sublist List.filter_sublist
      cases rest with
      | nil => exact Or.inl ⟨rfl, found⟩
      | cons item more =>
        cases item with
        | error error => exact absurd rfl (whole error more)
        | ok card =>
          right
          refine ⟨card, more, rfl, ?_⟩
          rw [found, relevant_of_kept (opens.ends rfl).1]
          rfl

end Options

namespace Statements

theorem steps_of_reader {options : Options} (counted : options.maxContinuations ≠ some topLimit)
    (reader : Reader) (calls : Nat) :
    ∃ steps, (ofFeed options (.reading reader)).steps calls = .ok steps := by
  have sound := run_fault_none counted reader.ascending.1
  obtain ⟨steps, done, -⟩ := steps_of_run sound calls
  have enough : calls ≤ steps.length := by
    rw [steps_length done]
    exact Nat.le_add_left _ _
  rw [← List.take_append_drop calls steps] at done
  have front := (steps_append done).1
  rw [List.length_take_of_le enough] at front
  exact ⟨_, front⟩

/--
So many lines were taken from a source that holds UTF-8, each of them once and none left out: the
bytes that are left are those behind the lines, and the readings in the journal are those of the
items of these lines.
-/
structure HasRead (source : Source) (lines : Nat) (steps : List Step) (statements : Statements) :
    Prop where
  bytes : ∃ reader, statements.cards.feed = .reading reader ∧
    source.bytes = source.front lines ++ reader.source.bytes
  readings : (steps.flatMap Step.records).filter Record.isReading =
    ((Feed.ofSource .utf8 source).items.take lines).flatMap (Feed.ofSource .utf8 source).records

theorem Follows.hasRead {options : Options} {source : Source} {items : List Item}
    {statements : Statements} {steps : List Step}
    (follows : Follows options (.ofSource .utf8 source) items statements)
    (readings : (steps.flatMap Step.records).filter Record.isReading =
      items.flatMap (Feed.ofSource .utf8 source).records) :
    HasRead source items.length steps statements := by
  obtain ⟨left, feed, drew⟩ := Reader.drew_of_draws follows.drawn
  refine ⟨⟨left, feed, drew.bytes⟩, ?_⟩
  rw [readings, follows.drawn.items_eq, List.take_left]

/-- The last line that was taken for a statement is that of its next card, if there is one. -/
theorem Follows.reached {options : Options} {source : Source} {items more : List Item}
    {statements : Statements} {step : Step} {statement : Statement}
    (follows : Follows options (.ofSource .utf8 source) items statements)
    (going : statements.finished = false) (done : statements.next = .ok step)
    (given : step.result = some (.ok statement))
    (drew : statements.cards.Drew more step.failure? step.records step.rest.cards)
    (further : Follows options (.ofSource .utf8 source) (items ++ more) step.rest) :
    match options.nextCard? statement (source.cards .utf8) with
    | some card => (items ++ more).length = card.line
    | none => source.front (items ++ more).length = source.bytes := by
  have failure := Step.failure?_of_statement given
  obtain ⟨-, -, ended⟩ := drew.going failure
  obtain ⟨left, feed, reader⟩ := Reader.drew_of_draws further.drawn
  have still : step.rest.finished = false := by rw [finished_next going done, failure]; rfl
  have lines : Ascending (cardsOf (Feed.ofSource .utf8 source).items) := (Reader.ascending _).1
  rcases next_eq_ok going done with ⟨-, none, -, -⟩ | ⟨result, rest, next, some, -, behind⟩
  · cases none.symm.trans given
  · cases some.symm.trans given
    rw [follows.options] at next
    rw [← source.cardsOf_items]
    rcases Options.nextCard?_of_nextItems lines follows.suffix next with
      ⟨rfl, none⟩ | ⟨card, others, rfl, found⟩
    -- nothing is left, and so the reader has come to the end of its source
    · rw [none]
      have empty : (Feed.reading left).items = [] := by
        rw [← feed]
        exact (List.append_eq_nil_iff.mp behind).2
      have open' : left.finished = false := reader.going (further.going still)
      have all := reader.bytes
      rw [Reader.bytes_of_items_nil open' empty, List.append_nil] at all
      exact all.symm
    -- the card is kept, and so it was drawn last
    · rw [found]
      have kept := further.kept
      cases held : step.rest.cards.ahead with
      | none =>
        rw [ended held] at behind
        cases behind
      | some item =>
        rw [Lookahead.items, held] at behind
        rw [held, (List.cons.inj behind).1] at kept
        obtain ⟨passed, last⟩ := kept
        have line := reader.line_of_last last.symm
        rw [Nat.zero_add] at line
        exact line.symm

/--
The pipeline reads one relevant card ahead, and no further. When a call gives a statement, the lines
taken from the source are those up to the first card behind the statement that is not ignored, or
all lines if there is none. When a call gives an error, they are those up to the line of the error,
and later calls take nothing. Each line is an item of its own, and none is read twice or left out.
-/
theorem steps_read_ahead {options : Options} (counted : options.maxContinuations ≠ some topLimit)
    (source : Source) (calls : Nat) :
    (Feed.ofSource .utf8 source).items.map Item.line =
      List.range' 1 (Feed.ofSource .utf8 source).items.length ∧
    ∃ steps, (ofUtf8Source options source).steps calls = .ok steps ∧
      ∀ before step after, steps = before ++ step :: after →
        ∃ lines, HasRead source lines (before ++ [step]) step.rest ∧
          (∀ statement, step.result = some (.ok statement) →
            match options.nextCard? statement (source.cards .utf8) with
            | some card => lines = card.line
            | none => source.front lines = source.bytes) ∧
          ∀ error, step.result = some (.error error) →
            lines = error.line ∧ ∀ later ∈ after, later.rest.cards.feed = step.rest.cards.feed := by
  refine ⟨Reader.lines_items _, ?_⟩
  obtain ⟨steps, done⟩ := steps_of_reader counted { encoding := .utf8, source := source } calls
  refine ⟨steps, done, ?_⟩
  rintro before step after rfl
  obtain ⟨items, follows, readings, called, behind⟩ :=
    (Follows.start options (.ofSource .utf8 source)).at done
  rw [List.nil_append] at follows
  rcases follows.next called with ⟨-, rfl⟩ | ⟨going, drawn, drew, further⟩
  · refine ⟨items.length, follows.hasRead ?_, ?_, ?_⟩
    · rw [List.flatMap_append, List.flatMap_singleton, List.append_nil, readings]
    · intro statement given
      cases given
    · intro error given
      cases given
  · refine ⟨(items ++ drawn).length, further.hasRead ?_, ?_, ?_⟩
    · rw [List.flatMap_append, List.flatMap_singleton, List.filter_append, readings, drew.readings,
        follows.drawn.records_eq, List.flatMap_append]
    · intro statement given
      exact follows.reached going called given drew further
    · intro error given
      have failure := Step.failure?_of_error given
      obtain ⟨-, ⟨passed, -, rfl⟩, -⟩ := drew.failed error failure
      obtain ⟨left, -, reader⟩ := Reader.drew_of_draws further.drawn
      have line : error.line = _ := reader.line_of_last (List.append_assoc _ _ _).symm
      rw [Nat.zero_add] at line
      have finished := finished_of_failure called failure
      refine ⟨line.symm, ?_⟩
      intro later member
      rw [steps_of_finished finished behind later member]

/--
A statement with a comment before its second card, one behind it, and then a byte that encodes
nothing in the line after the next statement.
-/
def aheadSource : Source :=
  { bytes := Encoding.utf8.encode
      "      A = 1\nC\n     1+ 2\nC\n      B = 'S\n     ".toList ++ [0xFF, 10, 10] }

theorem steps_read_ahead_broken :
    ∃ steps, (ofUtf8Source { comments := true } aheadSource).steps 3 = .ok steps ∧
      ∀ before step after, steps = before ++ step :: after →
        ∃ lines, HasRead aheadSource lines (before ++ [step]) step.rest ∧
          (∀ statement, step.result = some (.ok statement) →
            match Options.nextCard? { comments := true } statement (aheadSource.cards .utf8) with
            | some card => lines = card.line
            | none => aheadSource.front lines = aheadSource.bytes) ∧
          ∀ error, step.result = some (.error error) →
            lines = error.line ∧ ∀ later ∈ after, later.rest.cards.feed = step.rest.cards.feed :=
  (steps_read_ahead (by decide : ({ comments := true } : Options).maxContinuations ≠ some topLimit)
    aheadSource 3).2

end Statements

end CardDeck
