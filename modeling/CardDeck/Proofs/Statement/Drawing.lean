import CardDeck.Proofs.Feed.Drawn
import CardDeck.Proofs.Statement.Failing
import Mathlib.Data.List.Infix

/-!
Drawing for statements: which items the calls take from the feed, and what the journal says of them.

A call takes items up to the one that shows where its statement ends, and the lookahead keeps that
one for the next call. An error is never kept, as it ends the call that has drawn it.
-/

set_option autoImplicit false

namespace CardDeck

/-- The record was made as an item was read. -/
def Record.isReading (record : Record) : Bool := record.level == .trace || record.level == .error

theorem Feed.isReading_of_mem_records {feed : Feed} {item : Item} {record : Record}
    (member : record ∈ feed.records item) : record.isReading = true := by
  cases feed with
  | listed items => cases member
  | reading reader =>
    cases item with
    | ok card => rw [List.mem_singleton.mp member]; rfl
    | error error => rw [List.mem_singleton.mp member]; rfl

theorem Feed.filter_records (feed : Feed) (items : List Item) :
    (items.flatMap feed.records).filter Record.isReading = items.flatMap feed.records := by
  apply List.filter_eq_self.mpr
  intro record member
  obtain ⟨item, -, here⟩ := List.mem_flatMap.mp member
  exact isReading_of_mem_records here

/-- Notes on a statement are no readings. -/
def Noted (notes : List Record) : Prop := ∀ record ∈ notes, record.isReading = false

theorem Noted.nil : Noted [] := fun _ member => absurd member List.not_mem_nil

theorem Noted.append {notes more : List Record} (noted : Noted notes) (further : Noted more) :
    Noted (notes ++ more) := by
  intro record member
  rcases List.mem_append.mp member with before | behind
  · exact noted record before
  · exact further record behind

theorem Noted.filter {notes : List Record} (noted : Noted notes) :
    notes.filter Record.isReading = [] := by
  apply List.filter_eq_nil_iff.mpr
  intro record member
  rw [noted record member]
  exact Bool.false_ne_true

theorem noted_lexErrors (errors : List LexError) : Noted (errors.map .lexError) := by
  intro record member
  obtain ⟨error, -, rfl⟩ := List.mem_map.mp member
  rfl

theorem Statement.noted_closedRecord (statement : Statement) : Noted [statement.closedRecord] := by
  intro record member
  rw [List.mem_singleton.mp member]
  rfl

namespace Lookahead

theorem peek_draws (cards : Lookahead) :
    ∃ items, cards.feed.Draws items cards.peek.rest.feed ∧
      cards.peek.records = items.flatMap cards.feed.records ∧
      cards.ahead.toList ++ items = cards.peek.item.toList ∧
      cards.peek.rest.ahead = cards.peek.item := by
  unfold peek
  split
  · rename_i item held
    exact ⟨[], .none _, rfl, by rw [held]; rfl, held⟩
  · rename_i empty
    split
    · exact ⟨[], .none _, rfl, by rw [empty]; rfl, empty⟩
    · rename_i item rest taken
      refine ⟨[item], .one taken (.none rest), ?_, by rw [empty]; rfl, rfl⟩
      exact (List.append_nil _).symm

/-- What the search for a relevant item has drawn from the feed. -/
structure Searched (cards : Lookahead) (items : List Item) (pull : Pull) : Prop where
  drawn : cards.feed.Draws items pull.rest.feed
  records : pull.records = items.flatMap cards.feed.records
  found : ∀ item, pull.item = some item → pull.rest.ahead = none ∧
    ∃ passed, Clean passed ∧ cards.ahead.toList ++ items = passed ++ [item]
  missed : pull.item = none → Clean (cards.ahead.toList ++ items) ∧
    pull.rest.ahead.toList <:+ cards.ahead.toList ++ items ∧
    (pull.rest.ahead = none → pull.rest.items = [])

/-- Ignored cards are passed over, and an error is always accepted. -/
theorem takeRelevant_searched (options : Options) (accepts : Item → Bool)
    (errors : ∀ error, accepts (.error error) = true) (cards : Lookahead) :
    ∃ items, cards.Searched items (cards.takeRelevant options accepts) := by
  fun_induction takeRelevant options accepts cards with
  | case1 cards ended =>
    obtain ⟨items, drawn, records, whole, kept⟩ := cards.peek_draws
    rw [ended] at whole kept
    refine ⟨items, drawn, records, ?_, ?_⟩
    · intro item found
      rw [ended] at found
      cases found
    · rintro -
      rw [whole, kept]
      refine ⟨Clean.nil, List.suffix_refl _, fun _ => ?_⟩
      rw [items_peek]
      exact items_of_item_peek_none ended
  -- the item is an ignored card, and the search goes on behind it with nothing kept
  | case2 cards item shown ignored further ih =>
    obtain ⟨items, drawn, records, whole, -⟩ := cards.peek_draws
    obtain ⟨more, searched⟩ := ih
    have same : cards.ahead.toList ++ (items ++ more) = item :: more := by
      rw [← List.append_assoc, whole, shown]
      rfl
    have first := Clean.of_ignored ignored
    refine ⟨items ++ more, drawn.append searched.drawn, ?_, ?_, ?_⟩
    · show cards.peek.records ++ further.records = _
      rw [records, searched.records, List.flatMap_append]
      congr 2
      exact drawn.records_eq
    · intro other found
      obtain ⟨dropped, passed, clean, last⟩ := searched.found other found
      refine ⟨dropped, item :: passed, first.append clean, ?_⟩
      rw [same]
      exact congrArg (item :: ·) last
    · intro missed
      obtain ⟨clean, kept, rest⟩ := searched.missed missed
      rw [same]
      exact ⟨first.append clean, kept.trans (List.suffix_cons _ _), rest⟩
  | case3 cards item shown kept =>
    obtain ⟨items, drawn, records, whole, held⟩ := cards.peek_draws
    rw [shown] at whole held
    unfold nextIf
    dsimp only
    rw [shown]
    by_cases accepted : accepts item = true
    · rw [Option.any_some, if_pos accepted]
      refine ⟨items, drawn, records, ?_, ?_⟩
      · intro other found
        cases found
        exact ⟨rfl, [], Clean.nil, whole⟩
      · intro missed
        cases missed
    · rw [Option.any_some, if_neg accepted]
      refine ⟨items, drawn, records, ?_, ?_⟩
      · intro other found
        cases found
      · rintro -
        rw [whole, held]
        refine ⟨?_, List.suffix_refl _, fun dropped => by cases dropped⟩
        intro error member
        rw [← List.mem_singleton.mp member] at accepted
        exact accepted (errors error)

/--
What the items that were drawn came to: an error of the source, or none. In the first case the error
was drawn last, and its record is the last one too.
-/
structure Drew (cards : Lookahead) (items : List Item) (failure : Option SourceError)
    (records : List Record) (rest : Lookahead) : Prop where
  drawn : cards.feed.Draws items rest.feed
  readings : records.filter Record.isReading = items.flatMap cards.feed.records
  failed : ∀ error, failure = some error → rest.ahead = none ∧
    (∃ passed, Clean passed ∧ items = passed ++ [.error error]) ∧
    cards.feed.records (.error error) <:+ records
  going : failure = none → Clean (cards.ahead.toList ++ items) ∧
    rest.ahead.toList <:+ cards.ahead.toList ++ items ∧ (rest.ahead = none → rest.items = [])

namespace Searched

variable {cards rest : Lookahead} {items more : List Item} {pull : Pull}
  {notes records : List Record}

theorem drew_none (searched : cards.Searched items pull) (missed : pull.item = none)
    (noted : Noted notes) : cards.Drew items none (pull.records ++ notes) pull.rest := by
  refine ⟨searched.drawn, ?_, by simp, fun _ => searched.missed missed⟩
  rw [List.filter_append, searched.records, cards.feed.filter_records, noted.filter,
    List.append_nil]

theorem drew_error {error : SourceError} (searched : cards.Searched items pull)
    (found : pull.item = some (.error error)) (clean : Clean cards.ahead.toList) :
    cards.Drew items (some error) pull.records pull.rest := by
  obtain ⟨dropped, passed, settled, last⟩ := searched.found _ found
  refine ⟨searched.drawn, ?_, ?_, by simp⟩
  · rw [searched.records, cards.feed.filter_records]
  · intro other same
    cases same
    -- no error was kept, and so this one is the last of the items that were drawn
    rcases items.eq_nil_or_concat' with rfl | ⟨front, item, rfl⟩
    · rw [List.append_nil] at last
      refine absurd ?_ (clean error)
      rw [last]
      exact List.mem_append_right _ List.mem_cons_self
    · rw [← List.append_assoc] at last
      obtain ⟨rfl, same⟩ := List.append_inj' last rfl
      rw [searched.records, same, List.flatMap_append, List.flatMap_singleton]
      exact ⟨dropped, ⟨front, settled.suffix (List.suffix_append _ _), rfl⟩, List.suffix_append _ _⟩

theorem drew_card {card : Card} {failure : Option SourceError}
    (searched : cards.Searched items pull) (found : pull.item = some (.ok card))
    (noted : Noted notes) (drew : pull.rest.Drew more failure records rest) :
    cards.Drew (items ++ more) failure (pull.records ++ notes ++ records) rest := by
  obtain ⟨dropped, passed, clean, last⟩ := searched.found _ found
  have nothing : pull.rest.ahead.toList = [] := by rw [dropped]; rfl
  have whole : cards.ahead.toList ++ (items ++ more) = passed ++ [.ok card] ++ more := by
    rw [← List.append_assoc, last]
  have settled : Clean (passed ++ [.ok card]) := clean.append (Clean.map_ok [card])
  have same : pull.rest.feed.records = cards.feed.records := searched.drawn.records_eq
  refine ⟨searched.drawn.append drew.drawn, ?_, ?_, ?_⟩
  · rw [List.filter_append, List.filter_append, searched.records, cards.feed.filter_records,
      noted.filter, drew.readings, same, List.append_nil, List.flatMap_append]
  · intro error failed
    obtain ⟨kept, ⟨front, further, back⟩, record⟩ := drew.failed error failed
    rw [← last] at settled
    have before := settled.suffix (List.suffix_append _ _)
    rw [same] at record
    refine ⟨kept, ⟨items ++ front, before.append further, ?_⟩, ?_⟩
    · rw [back, List.append_assoc]
    · exact record.trans (List.suffix_append _ _)
  · intro going
    obtain ⟨further, kept, ended⟩ := drew.going going
    rw [nothing, List.nil_append] at further kept
    rw [whole]
    exact ⟨settled.append further, kept.trans (List.suffix_append _ _), ended⟩

end Searched

end Lookahead

def Result.failure? : Result → Option SourceError
  | .error error => some error
  | .ok _ => none

/-- The error that a call gives. -/
def Step.failure? (step : Step) : Option SourceError := step.result.bind Result.failure?

theorem Step.failure?_of_error {step : Step} {error : SourceError}
    (given : step.result = some (.error error)) : step.failure? = some error := by
  rw [failure?, given]
  rfl

theorem Step.failure?_of_statement {step : Step} {statement : Statement}
    (given : step.result = some (.ok statement)) : step.failure? = none := by
  rw [failure?, given]
  rfl

theorem Step.failure?_of_none {step : Step} (nothing : step.result = none) :
    step.failure? = none := by
  rw [failure?, nothing]
  rfl

namespace Statements

/-- Joining cards to an open statement draws them, and the item that shows where it ends. -/
theorem gather_drew {options : Options} {assembly : Assembly} {cards : Lookahead}
    {gathered : Gathered} (clean : Clean cards.ahead.toList)
    (done : gather options assembly cards = .ok gathered) :
    ∃ items, cards.Drew items (Result.failure? gathered.result) gathered.records gathered.rest := by
  fun_induction gather options assembly cards generalizing gathered with
  | case1 assembly cards pull =>
    rename_i ended
    obtain ⟨items, searched⟩ := cards.takeRelevant_searched options continues fun _ => rfl
    obtain ⟨statement, -, same⟩ := Fault.bind_eq_ok.mp done
    cases same
    refine ⟨items, ?_⟩
    show cards.Drew items none (_ ++ _ ++ _) pull.rest
    rw [List.append_assoc]
    exact searched.drew_none ended ((noted_lexErrors _).append statement.noted_closedRecord)
  | case2 assembly cards pull error =>
    rename_i failed
    obtain ⟨items, searched⟩ := cards.takeRelevant_searched options continues fun _ => rfl
    cases done
    exact ⟨items, searched.drew_error failed clean⟩
  | case3 assembly cards pull card taken =>
    rename_i ih
    obtain ⟨items, searched⟩ := cards.takeRelevant_searched options continues fun _ => rfl
    obtain ⟨joined, -, more⟩ := Fault.bind_eq_ok.mp done
    obtain ⟨later, there, same⟩ := Fault.bind_eq_ok.mp more
    cases same
    have dropped := (searched.found _ taken).1
    obtain ⟨further, drew⟩ := ih joined (by rw [dropped]; exact Clean.nil) there
    exact ⟨items ++ further, searched.drew_card taken (noted_lexErrors _) drew⟩

theorem next_drew {statements : Statements} {step : Step} (going : statements.finished = false)
    (clean : Clean statements.cards.ahead.toList) (done : statements.next = .ok step) :
    ∃ items, statements.cards.Drew items step.failure? step.records step.rest.cards := by
  obtain ⟨items, searched⟩ :=
    statements.cards.takeRelevant_searched statements.options (fun _ => true) fun _ => rfl
  rw [next, going, if_neg Bool.false_ne_true] at done
  dsimp only at done
  split at done
  · rename_i ended
    cases done
    have drew := searched.drew_none ended Noted.nil
    rw [List.append_nil] at drew
    exact ⟨items, drew⟩
  · rename_i error failed
    cases done
    exact ⟨items, searched.drew_error failed clean⟩
  · rename_i first taken
    obtain ⟨started, -, more⟩ := Fault.bind_eq_ok.mp done
    obtain ⟨gathered, there, same⟩ := Fault.bind_eq_ok.mp more
    cases same
    have dropped := (searched.found _ taken).1
    obtain ⟨further, drew⟩ := gather_drew (by rw [dropped]; exact Clean.nil) there
    exact ⟨items ++ further, searched.drew_card taken (noted_lexErrors _) drew⟩

theorem options_next {statements : Statements} {step : Step} (done : statements.next = .ok step) :
    step.rest.options = statements.options := by
  by_cases finished : statements.finished = true
  · rw [next_of_finished finished] at done
    cases done
    rfl
  · have outline := next_items (Bool.eq_false_iff.mpr finished)
    rw [done] at outline
    cases given : nextItems statements.options statements.cards.items with
    | error fault =>
      rw [given] at outline
      cases outline
    | ok next =>
      rw [given] at outline
      cases next with
      | none => exact congrArg (·.2.1) (Except.ok.inj outline)
      | some next => exact congrArg (·.2.1) (Except.ok.inj outline)

theorem finished_next {statements : Statements} {step : Step} (going : statements.finished = false)
    (done : statements.next = .ok step) : step.rest.finished = step.failure?.isSome := by
  rcases next_eq_ok going done with ⟨-, none, still, -⟩ | ⟨result, -, -, given, ended, -⟩
  · rw [still, Step.failure?_of_none none]
    rfl
  · rw [ended, Step.failure?, given]
    cases result <;> rfl

theorem finished_of_failure {statements : Statements} {step : Step} {error : SourceError}
    (done : statements.next = .ok step) (failure : step.failure? = some error) :
    step.rest.finished = true := by
  by_cases finished : statements.finished = true
  · rw [next_of_finished finished] at done
    cases done
    cases failure
  · rw [finished_next (Bool.eq_false_iff.mpr finished) done, failure]
    rfl

/-- What the calls have made of the statements of the feed, having drawn the items. -/
structure Follows (options : Options) (feed : Feed) (items : List Item) (statements : Statements) :
    Prop where
  options : statements.options = options
  drawn : feed.Draws items statements.cards.feed
  kept : statements.cards.ahead.toList <:+ items
  going : statements.finished = false → Clean items
  ended : statements.finished = true → ∃ passed error, items = passed ++ [.error error]

namespace Follows

variable {options : Options} {feed : Feed} {items : List Item} {statements : Statements}

theorem start (options : Options) (feed : Feed) : Follows options feed [] (ofFeed options feed) :=
  ⟨rfl, .none feed, List.suffix_refl _, fun _ => Clean.nil, by simp [ofFeed]⟩

theorem suffix (follows : Follows options feed items statements) :
    statements.cards.items <:+ feed.items := by
  rw [follows.drawn.items_eq, Lookahead.items]
  obtain ⟨front, same⟩ := follows.kept
  rw [← same, List.append_assoc]
  exact List.suffix_append _ _

theorem next {step : Step} (follows : Follows options feed items statements)
    (done : statements.next = .ok step) :
    (statements.finished = true ∧ step = { result := none, records := [], rest := statements }) ∨
      (statements.finished = false ∧ ∃ more,
        statements.cards.Drew more step.failure? step.records step.rest.cards ∧
        Follows options feed (items ++ more) step.rest) := by
  cases finished : statements.finished with
  | true =>
    left
    rw [next_of_finished finished] at done
    exact ⟨rfl, (Except.ok.inj done).symm⟩
  | false =>
    right
    have clean := follows.going finished
    obtain ⟨more, drew⟩ := next_drew finished (clean.suffix follows.kept) done
    obtain ⟨front, split⟩ := follows.kept
    have further := finished_next finished done
    refine ⟨rfl, more, drew, (options_next done).trans follows.options,
      follows.drawn.append drew.drawn, ?_, ?_, ?_⟩
    · cases failure : step.failure? with
      | none =>
        rw [← split, List.append_assoc]
        exact (drew.going failure).2.1.trans (List.suffix_append _ _)
      | some error =>
        rw [(drew.failed error failure).1]
        exact List.nil_suffix
    · intro still
      rw [still] at further
      have failure := Option.isNone_iff_eq_none.mp (Option.isSome_eq_false_iff.mp further.symm)
      have settled := (drew.going failure).1.suffix (List.suffix_append _ _)
      exact clean.append settled
    · intro given
      rw [given] at further
      obtain ⟨error, failure⟩ := Option.isSome_iff_exists.mp further.symm
      obtain ⟨-, ⟨passed, -, last⟩, -⟩ := drew.failed error failure
      exact ⟨items ++ passed, error, by rw [last, List.append_assoc]⟩

end Follows

/-- What is left of the statements after the steps. -/
def after (statements : Statements) : List Step → Statements
  | [] => statements
  | step :: later => step.rest.after later

theorem steps_succ_eq_ok {statements : Statements} {count : Nat} {steps : List Step}
    (done : statements.steps (count + 1) = .ok steps) :
    ∃ step later, steps = step :: later ∧ statements.next = .ok step ∧
      step.rest.steps count = .ok later := by
  obtain ⟨step, called, more⟩ := Fault.bind_eq_ok.mp done
  obtain ⟨later, there, same⟩ := Fault.bind_eq_ok.mp more
  exact ⟨step, later, (Except.ok.inj same).symm, called, there⟩

theorem steps_length {statements : Statements} {count : Nat} {steps : List Step}
    (done : statements.steps count = .ok steps) : steps.length = count := by
  induction count generalizing statements steps with
  | zero =>
    cases done
    rfl
  | succ count ih =>
    obtain ⟨step, later, rfl, -, there⟩ := steps_succ_eq_ok done
    rw [List.length_cons, ih there]

theorem steps_append {statements : Statements} {count : Nat} {earlier later : List Step}
    (done : statements.steps count = .ok (earlier ++ later)) :
    statements.steps earlier.length = .ok earlier ∧
      (statements.after earlier).steps later.length = .ok later := by
  induction earlier generalizing statements count with
  | nil =>
    refine ⟨rfl, ?_⟩
    rw [List.nil_append] at done
    rw [after, steps_length done]
    exact done
  | cons step earlier ih =>
    cases count with
    | zero => cases done
    | succ count =>
      obtain ⟨first, others, same, called, there⟩ := steps_succ_eq_ok done
      obtain ⟨rfl, rfl⟩ := List.cons.inj same
      obtain ⟨front, back⟩ := ih there
      exact ⟨steps_succ called front, back⟩

/-- All that the calls have drawn was put down as it was read. -/
theorem Follows.steps {options : Options} {feed : Feed} {items : List Item}
    {statements : Statements} {count : Nat} {steps : List Step}
    (follows : Follows options feed items statements)
    (done : statements.steps count = .ok steps) :
    ∃ more, Follows options feed (items ++ more) (statements.after steps) ∧
      (steps.flatMap Step.records).filter Record.isReading = more.flatMap feed.records := by
  induction count generalizing statements items steps with
  | zero =>
    cases done
    exact ⟨[], by rw [List.append_nil]; exact follows, rfl⟩
  | succ count ih =>
    obtain ⟨step, later, rfl, called, there⟩ := steps_succ_eq_ok done
    rcases follows.next called with ⟨-, rfl⟩ | ⟨-, first, drew, further⟩
    · obtain ⟨more, behind, readings⟩ := ih follows there
      exact ⟨more, behind, readings⟩
    · obtain ⟨more, behind, readings⟩ := ih further there
      refine ⟨first ++ more, by rw [← List.append_assoc]; exact behind, ?_⟩
      rw [List.flatMap_cons, List.filter_append, drew.readings, readings, List.flatMap_append,
        follows.drawn.records_eq]

/-- What one of the calls finds, and what becomes of it. -/
theorem Follows.at {options : Options} {feed : Feed} {items : List Item} {statements : Statements}
    {count : Nat} {before after : List Step} {step : Step}
    (follows : Follows options feed items statements)
    (done : statements.steps count = .ok (before ++ step :: after)) :
    ∃ more, Follows options feed (items ++ more) (statements.after before) ∧
      (before.flatMap Step.records).filter Record.isReading = more.flatMap feed.records ∧
      (statements.after before).next = .ok step ∧ step.rest.steps after.length = .ok after := by
  obtain ⟨front, back⟩ := steps_append done
  obtain ⟨first, others, same, called, behind⟩ := steps_succ_eq_ok back
  obtain ⟨rfl, rfl⟩ := List.cons.inj same
  obtain ⟨more, further, readings⟩ := follows.steps front
  exact ⟨more, further, readings, called, behind⟩

theorem steps_of_finished {statements : Statements} {count : Nat} {steps : List Step}
    (finished : statements.finished = true) (done : statements.steps count = .ok steps) :
    ∀ step ∈ steps, step = { result := none, records := [], rest := statements } := by
  induction count generalizing steps with
  | zero =>
    cases done
    intro step member
    cases member
  | succ count ih =>
    obtain ⟨step, later, rfl, called, there⟩ := steps_succ_eq_ok done
    rw [next_of_finished finished] at called
    obtain rfl := Except.ok.inj called
    intro other member
    rcases List.mem_cons.mp member with here | behind
    · exact here
    · exact ih there other behind

end Statements

end CardDeck
