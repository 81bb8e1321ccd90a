import CardDeck.Proofs.Statement.Drawing
import CardDeck.Proofs.Statement.Errors
import CardDeck.Proofs.Statement.Safety
import CardDeck.Proofs.Text.Cut

/-!
The journal as a ledger: what it says of each call is what the call gives.

The errors of a statement are put down as they are found, and the statement itself as it is closed.
An error of the source is put down as it is read, also if it is read only to look ahead, and nothing
follows it.
-/

set_option autoImplicit false

namespace CardDeck

namespace Record

def atLevel (level : Level) (records : List Record) : List Record :=
  records.filter fun record => record.level == level

@[simp] theorem atLevel_append (level : Level) (front back : List Record) :
    atLevel level (front ++ back) = atLevel level front ++ atLevel level back :=
  List.filter_append _ _

/-- The notes on statements, which are all records but those of reading. -/
def notes (records : List Record) : List Record := records.filter fun record => !record.isReading

@[simp] theorem notes_append (front back : List Record) :
    notes (front ++ back) = notes front ++ notes back := List.filter_append _ _

theorem atLevel_readings {level : Level} (reading : level = .trace ∨ level = .error)
    (records : List Record) : atLevel level (records.filter isReading) = atLevel level records := by
  rw [atLevel, List.filter_filter]
  apply List.filter_congr
  intro record _
  rcases reading with rfl | rfl <;> cases same : record.level <;> simp [isReading, same]

theorem atLevel_notes {level : Level} (noting : level = .warn ∨ level = .debug)
    (records : List Record) : atLevel level (notes records) = atLevel level records := by
  rw [atLevel, notes, List.filter_filter]
  apply List.filter_congr
  intro record _
  rcases noting with rfl | rfl <;> cases same : record.level <;> simp [isReading, same]

theorem atLevel_warn_lexErrors (errors : List LexError) :
    atLevel .warn (errors.map lexError) = errors.map lexError := by
  apply List.filter_eq_self.mpr
  intro record member
  obtain ⟨error, -, rfl⟩ := List.mem_map.mp member
  rfl

theorem atLevel_debug_lexErrors (errors : List LexError) :
    atLevel .debug (errors.map lexError) = [] := by
  apply List.filter_eq_nil_iff.mpr
  intro record member
  obtain ⟨error, -, rfl⟩ := List.mem_map.mp member
  exact Bool.false_ne_true

end Record

theorem Noted.notes_eq {notes : List Record} (noted : Noted notes) :
    Record.notes notes = notes := by
  apply List.filter_eq_self.mpr
  intro record member
  rw [noted record member]
  rfl

theorem Feed.notes_records (feed : Feed) (items : List Item) :
    Record.notes (items.flatMap feed.records) = [] := by
  apply List.filter_eq_nil_iff.mpr
  intro record member
  obtain ⟨item, -, here⟩ := List.mem_flatMap.mp member
  rw [isReading_of_mem_records here]
  exact Bool.false_ne_true

namespace Reader

/-- A reader puts down each card that it gives. -/
theorem trace_records (reader : Reader) (items : List Item) :
    Record.atLevel .trace (items.flatMap (Feed.reading reader).records) =
      (cardsOf items).map .card := by
  induction items with
  | nil => rfl
  | cons item items ih =>
    rw [List.flatMap_cons, Record.atLevel_append, ih]
    cases item <;> rfl

theorem error_records {items : List Item} (reader : Reader) (clean : Clean items) :
    Record.atLevel .error (items.flatMap (Feed.reading reader).records) = [] := by
  apply List.filter_eq_nil_iff.mpr
  intro record member
  obtain ⟨item, among, here⟩ := List.mem_flatMap.mp member
  cases item with
  | error error => exact absurd among (clean error)
  | ok card =>
    rw [List.mem_singleton.mp here]
    exact Bool.false_ne_true

end Reader

namespace Assembly

/-- Errors are only added to those that are there. -/
theorem errors_enter {draft : Draft} {entered : Assembly} {found : List Entry}
    (done : enter draft found = .ok entered) : draft.errors <+: entered.draft.errors := by
  obtain ⟨-, -, ⟨-, same⟩ | ⟨ch, position, -, -, added⟩⟩ := enter_errors done
  · exact same ▸ List.prefix_refl _
  · rw [added]
    exact List.prefix_append _ _

theorem errors_join {options : Options} {assembly joined : Assembly} {card : Card}
    (done : assembly.join options card = .ok joined) :
    assembly.draft.errors <+: joined.draft.errors := by
  obtain ⟨draft, extended, done⟩ := Fault.bind_eq_ok.mp done
  obtain rfl := Draft.join_eq_ok extended
  have grown : assembly.draft.errors <+:
      (assembly.draft.extend options.maxContinuations card).errors := List.prefix_append _ _
  cases standing : assembly.progress with
  | ready =>
    simp only [standing] at done
    exact grown.trans (errors_enter done)
  | stopped =>
    simp only [standing] at done
    cases done
    exact grown
  | inside literal =>
    simp only [standing] at done
    split at done
    · obtain ⟨next, added, entering⟩ := Fault.bind_eq_ok.mp done
      obtain rfl := Draft.addToken_eq_ok added
      have entered := errors_enter entering
      exact grown.trans entered
    · cases done
      exact grown

theorem errors_finish {assembly : Assembly} {statement : Statement}
    (done : assembly.finish = .ok statement) : assembly.draft.errors <+: statement.errors := by
  cases standing : assembly.progress with
  | ready | stopped =>
    simp only [finish, standing] at done
    cases done
    exact List.prefix_refl _
  | inside literal =>
    simp only [finish, standing] at done
    split at done
    · obtain ⟨next, added, closed⟩ := Fault.bind_eq_ok.mp done
      obtain rfl := Draft.addToken_eq_ok added
      cases closed
      exact List.prefix_refl _
    · cases done
      exact List.prefix_append _ _

end Assembly

theorem Draft.warnings_append (seen : Draft) (errors : List LexError) :
    seen.warnings (seen.errors ++ errors) = errors.map .lexError := by
  rw [warnings, List.drop_left]

namespace Statements

theorem notes_takeRelevant (options : Options) (accepts : Item → Bool)
    (errors : ∀ error, accepts (.error error) = true) (cards : Lookahead) :
    Record.notes (cards.takeRelevant options accepts).records = [] := by
  obtain ⟨items, searched⟩ := cards.takeRelevant_searched options accepts errors
  rw [searched.records, cards.feed.notes_records]

/-- The errors found since the assembly was seen are put down, and then what closes it. -/
theorem gather_notes {options : Options} {assembly : Assembly} {cards : Lookahead}
    {gathered : Gathered} (done : gather options assembly cards = .ok gathered) :
    match gathered.result with
    | .ok statement => ∃ errors, statement.errors = assembly.draft.errors ++ errors ∧
        Record.notes gathered.records = errors.map .lexError ++ [statement.closedRecord] ∧
        [statement.closedRecord] <:+ gathered.records
    | .error _ =>
      ∃ errors : List LexError, Record.notes gathered.records = errors.map .lexError := by
  have read := notes_takeRelevant options continues fun _ => rfl
  fun_induction gather options assembly cards generalizing gathered with
  | case1 assembly cards pull =>
    obtain ⟨statement, finished, same⟩ := Fault.bind_eq_ok.mp done
    cases same
    obtain ⟨errors, grown⟩ := Assembly.errors_finish finished
    have silent : Record.notes pull.records = [] := read cards
    refine ⟨errors, grown.symm, ?_, List.suffix_append _ _⟩
    dsimp only
    rw [← grown, Draft.warnings_append, Record.notes_append, Record.notes_append, silent,
      (noted_lexErrors errors).notes_eq]
    rfl
  | case2 assembly cards pull error =>
    cases done
    exact ⟨[], read cards⟩
  | case3 assembly cards pull card taken =>
    rename_i ih
    obtain ⟨joined, joining, more⟩ := Fault.bind_eq_ok.mp done
    obtain ⟨later, there, same⟩ := Fault.bind_eq_ok.mp more
    cases same
    obtain ⟨errors, grown⟩ := Assembly.errors_join joining
    have silent : Record.notes pull.records = [] := read cards
    -- what is found on the card is put down here, and what is found later by the rest of the loop
    have further := ih joined there
    dsimp only
    rw [← grown, Draft.warnings_append, Record.notes_append, Record.notes_append, silent,
      (noted_lexErrors errors).notes_eq, List.nil_append]
    cases result : later.result with
    | error error =>
      rw [result] at further
      obtain ⟨others, notes⟩ := further
      exact ⟨errors ++ others, by rw [notes, List.map_append]⟩
    | ok statement =>
      rw [result] at further
      obtain ⟨others, whole, notes, closed⟩ := further
      refine ⟨errors ++ others, ?_, ?_, closed.trans (List.suffix_append _ _)⟩
      · rw [whole, ← grown, List.append_assoc]
      · rw [notes, List.map_append, List.append_assoc]

/-- A call puts down all errors of its statement, those on the first card too, and its end. -/
theorem next_notes {statements : Statements} {step : Step} (done : statements.next = .ok step) :
    match step.result with
    | some (.ok statement) =>
      Record.notes step.records = statement.errors.map .lexError ++ [statement.closedRecord] ∧
        [statement.closedRecord] <:+ step.records
    | some (.error _) => ∃ errors : List LexError, Record.notes step.records = errors.map .lexError
    | none => Record.notes step.records = [] := by
  have silent :=
    notes_takeRelevant statements.options (fun _ => true) (fun _ => rfl) statements.cards
  unfold next at done
  split at done
  · cases done
    rfl
  · dsimp only at done
    split at done
    · cases done
      exact silent
    · cases done
      exact ⟨[], silent⟩
    · obtain ⟨started, -, more⟩ := Fault.bind_eq_ok.mp done
      obtain ⟨gathered, there, same⟩ := Fault.bind_eq_ok.mp more
      cases same
      have further := gather_notes there
      dsimp only
      rw [Record.notes_append, Record.notes_append, silent, (noted_lexErrors _).notes_eq,
        List.nil_append]
      cases result : gathered.result with
      | error error =>
        rw [result] at further
        obtain ⟨errors, notes⟩ := further
        exact ⟨started.draft.errors ++ errors, by rw [notes, List.map_append]⟩
      | ok statement =>
        rw [result] at further
        obtain ⟨errors, whole, notes, closed⟩ := further
        refine ⟨?_, closed.trans (List.suffix_append _ _)⟩
        rw [notes, whole, List.map_append, List.append_assoc]

end Statements

namespace Statement

/-- What is said of a statement when it is closed: where it starts, and how much it has of what. -/
def account (statement : Statement) : Text :=
  "statement at line ".toList ++ Decimal.text statement.line ++ ": ".toList ++
    Decimal.text statement.cards.length ++ " card(s), ".toList ++
    Decimal.text statement.tokens.length ++ " token(s), ".toList ++
    Decimal.text statement.errors.length ++ " error(s)".toList

theorem closedRecord_eq (statement : Statement) :
    statement.closedRecord = ⟨.debug, statement.account⟩ := rfl

/-- The line and the three numbers are told from the account. -/
theorem account_inj {statement other : Statement} (same : statement.account = other.account) :
    statement.line = other.line ∧ statement.cards.length = other.cards.length ∧
      statement.tokens.length = other.tokens.length ∧
      statement.errors.length = other.errors.length := by
  have flat : ∀ closed : Statement, closed.account = "statement at line ".toList ++
      (Decimal.text closed.line ++ (": ".toList ++ (Decimal.text closed.cards.length ++
        (" card(s), ".toList ++ (Decimal.text closed.tokens.length ++ (" token(s), ".toList ++
          (Decimal.text closed.errors.length ++ " error(s)".toList))))))) := by
    intro closed
    unfold account
    simp only [List.append_assoc]
  have line : ∀ rest : Text, (": ".toList ++ rest).head?.any Char.isDigit = false := fun _ => rfl
  have cards : ∀ rest : Text, (" card(s), ".toList ++ rest).head?.any Char.isDigit = false :=
    fun _ => rfl
  have tokens : ∀ rest : Text, (" token(s), ".toList ++ rest).head?.any Char.isDigit = false :=
    fun _ => rfl
  have errors : (" error(s)".toList : Text).head?.any Char.isDigit = false := rfl
  rw [flat, flat] at same
  obtain ⟨sameLine, same⟩ := Decimal.append_inj (line _) (line _) (List.append_cancel_left same)
  obtain ⟨sameCards, same⟩ := Decimal.append_inj (cards _) (cards _) (List.append_cancel_left same)
  obtain ⟨sameTokens, same⟩ :=
    Decimal.append_inj (tokens _) (tokens _) (List.append_cancel_left same)
  obtain ⟨sameErrors, -⟩ := Decimal.append_inj errors errors (List.append_cancel_left same)
  exact ⟨sameLine, sameCards, sameTokens, sameErrors⟩

end Statement

/--
The journal of a call that gives a statement warns of its errors, in their order, and its last
record is the account of the statement. A call that gives an error puts it down last. Nothing else
is put down but what was read.
-/
def Step.Faithful (step : Step) : Prop :=
  match step.result with
  | some (.ok statement) =>
    Record.atLevel .warn step.records =
        statement.errors.map (fun error => ⟨.warn, error.message⟩) ∧
      Record.atLevel .debug step.records = [⟨.debug, statement.account⟩] ∧
      step.records.getLast? = some ⟨.debug, statement.account⟩ ∧
      Record.atLevel .error step.records = []
  | some (.error error) =>
    Record.atLevel .error step.records = [⟨.error, error.message⟩] ∧
      step.records.getLast? = some ⟨.error, error.message⟩ ∧
      Record.atLevel .debug step.records = []
  | none =>
    Record.atLevel .warn step.records = [] ∧ Record.atLevel .debug step.records = [] ∧
      Record.atLevel .error step.records = []

theorem Step.Faithful.error_records {step : Step} (faithful : step.Faithful) :
    Record.atLevel .error step.records = step.failure?.toList.map .failure := by
  unfold Step.Faithful at faithful
  cases given : step.result with
  | none =>
    rw [given] at faithful
    rw [faithful.2.2, Step.failure?_of_none given]
    rfl
  | some result =>
    rw [given] at faithful
    cases result with
    | ok statement =>
      rw [faithful.2.2.2, Step.failure?_of_statement given]
      rfl
    | error error =>
      rw [faithful.1, Step.failure?_of_error given]
      rfl

theorem Step.error_records_flatMap {steps : List Step} (faithful : ∀ step ∈ steps, step.Faithful) :
    Record.atLevel .error (steps.flatMap Step.records) =
      (steps.filterMap Step.failure?).map .failure := by
  induction steps with
  | nil => rfl
  | cons step steps ih =>
    obtain ⟨first, others⟩ := List.forall_mem_cons.mp faithful
    rw [List.flatMap_cons, Record.atLevel_append, first.error_records, ih others]
    cases given : step.failure? with
    | none =>
      rw [List.filterMap_cons_none given]
      rfl
    | some error =>
      rw [List.filterMap_cons_some given]
      rfl

namespace Statements

theorem Follows.faithful {options : Options} {reader : Reader} {items : List Item}
    {statements : Statements} {step : Step}
    (follows : Follows options (.reading reader) items statements)
    (done : statements.next = .ok step) : step.Faithful := by
  have notes := next_notes done
  rcases follows.next done with ⟨-, rfl⟩ | ⟨going, more, drew, further⟩
  · exact ⟨rfl, rfl, rfl⟩
  have errors : Record.atLevel .error step.records =
      Record.atLevel .error (more.flatMap (Feed.reading reader).records) := by
    rw [← Record.atLevel_readings (Or.inr rfl), drew.readings, follows.drawn.records_eq]
  have warn := Record.atLevel_notes (Or.inl rfl : Level.warn = .warn ∨ _) step.records
  have debug := Record.atLevel_notes (Or.inr rfl : _ ∨ Level.debug = .debug) step.records
  unfold Step.Faithful
  cases given : step.result with
  | none =>
    rw [given] at notes
    have clean := (drew.going (Step.failure?_of_none given)).1
    dsimp only
    rw [← warn, ← debug, notes, errors,
      reader.error_records (clean.suffix (List.suffix_append _ _))]
    exact ⟨rfl, rfl, rfl⟩
  | some result =>
    cases result with
    | ok statement =>
      rw [given] at notes
      obtain ⟨notes, closed⟩ := notes
      rw [statement.closedRecord_eq] at notes closed
      have clean := (drew.going (Step.failure?_of_statement given)).1
      refine ⟨?_, ?_, List.singleton_suffix_iff_getLast?_eq_some.mp closed, ?_⟩
      · rw [← warn, notes, Record.atLevel_append, Record.atLevel_warn_lexErrors]
        exact List.append_nil _
      · rw [← debug, notes, Record.atLevel_append, Record.atLevel_debug_lexErrors]
        rfl
      · rw [errors, reader.error_records (clean.suffix (List.suffix_append _ _))]
    | error error =>
      rw [given] at notes
      obtain ⟨found, notes⟩ := notes
      obtain ⟨-, ⟨passed, clean, last⟩, record⟩ :=
        drew.failed error (Step.failure?_of_error given)
      rw [follows.drawn.records_eq] at record
      refine ⟨?_, List.singleton_suffix_iff_getLast?_eq_some.mp record, ?_⟩
      · rw [errors, last, List.flatMap_append, Record.atLevel_append, reader.error_records clean]
        rfl
      · rw [← debug, notes, Record.atLevel_debug_lexErrors]

theorem faithful_of_steps {options : Options} {reader : Reader} {count : Nat} {steps : List Step}
    (done : (ofFeed options (.reading reader)).steps count = .ok steps) :
    ∀ step ∈ steps, step.Faithful := by
  intro step member
  obtain ⟨before, after, rfl⟩ := List.append_of_mem member
  obtain ⟨items, follows, -, called, -⟩ := (Follows.start options (.reading reader)).at done
  exact follows.faithful called

theorem journal_of_none {statements : Statements} {step : Step}
    (next : statements.next = .ok step) (ended : step.result = none) :
    statements.journal = step.records := by
  rw [journal]
  split
  · simp_all
  · split <;> simp_all

theorem journal_of_some {statements : Statements} {step : Step} {result : Result}
    (next : statements.next = .ok step) (given : step.result = some result) :
    statements.journal = step.records ++ step.rest.journal := by
  rw [journal]
  split
  · simp_all
  · split <;> simp_all

/-- The journal of a run is that of its calls, the first one that gives nothing among them. -/
theorem journal_eq {statements : Statements} {steps : List Step}
    (done : statements.steps (statements.run.results.length + 1) = .ok steps) :
    statements.journal = steps.flatMap Step.records := by
  fun_induction run statements generalizing steps with
  | case1 statements fault failed =>
    obtain ⟨step, later, -, called, -⟩ := steps_succ_eq_ok done
    rw [failed] at called
    cases called
  | case2 statements step called nothing =>
    obtain ⟨first, later, rfl, again, rest⟩ := steps_succ_eq_ok done
    rw [called] at again
    cases again
    cases rest
    rw [journal_of_none called nothing, List.flatMap_singleton]
  | case3 statements step called result given later =>
    rename_i ih
    obtain ⟨first, more, rfl, again, rest⟩ := steps_succ_eq_ok done
    rw [called] at again
    cases again
    rw [journal_of_some called given, ih rest, List.flatMap_cons]

/-- The journal of a run holds the errors that it gives, and no others. -/
theorem error_journal {options : Options} {reader : Reader}
    (sound : (ofFeed options (.reading reader)).run.fault = none) :
    Record.atLevel .error (ofFeed options (.reading reader)).journal =
      ((ofFeed options (.reading reader)).run.results.filterMap Result.failure?).map .failure := by
  obtain ⟨steps, done, results⟩ := steps_of_run sound 1
  have given : (steps.map Step.result).filterMap (fun result => result.bind Result.failure?) =
      steps.filterMap Step.failure? := List.filterMap_map
  rw [journal_eq done, Step.error_records_flatMap (faithful_of_steps done), ← given, results,
    List.filterMap_append, List.filterMap_map]
  exact congrArg _ (List.append_nil _)

theorem Follows.getLast?_of_failure {options : Options} {reader : Reader} {statements : Statements}
    {count : Nat} {steps : List Step} {step : Step} {error : SourceError}
    (follows : Follows options (.reading reader) [] statements)
    (done : statements.steps count = .ok steps) (member : step ∈ steps)
    (given : step.result = some (.error error)) :
    (steps.flatMap Step.records).getLast? = some ⟨.error, error.message⟩ := by
  obtain ⟨before, after, rfl⟩ := List.append_of_mem member
  obtain ⟨items, further, -, called, behind⟩ := follows.at done
  have faithful := further.faithful called
  rw [Step.Faithful, given] at faithful
  have last := faithful.2.1
  have finished := finished_of_failure called (Step.failure?_of_error given)
  have silent : after.flatMap Step.records = [] := by
    apply List.flatMap_eq_nil_iff.mpr
    intro later among
    rw [steps_of_finished finished behind later among]
  rw [List.flatMap_append, List.flatMap_cons, silent, List.append_nil, List.getLast?_append, last]
  rfl

/-- A call that gives nothing has found nothing left in the source. -/
theorem Follows.items_of_none {options : Options} {reader : Reader} {items : List Item}
    {statements : Statements} {step : Step}
    (follows : Follows options (.reading reader) items statements)
    (done : statements.next = .ok step) (nothing : step.result = none) :
    ∃ more, (Feed.reading reader).items = items ++ more ∧
      step.records.filter Record.isReading = more.flatMap (Feed.reading reader).records := by
  rcases follows.next done with ⟨finished, rfl⟩ | ⟨going, more, drew, further⟩
  · obtain ⟨passed, error, last⟩ := follows.ended finished
    obtain ⟨left, feed, drawn⟩ := Reader.drew_of_draws follows.drawn
    refine ⟨[], ?_, rfl⟩
    rw [follows.drawn.items_eq, feed, Reader.items_of_finished (drawn.ended passed error last)]
  · refine ⟨more, ?_, ?_⟩
    · rcases next_eq_ok going done with ⟨-, -, -, empty⟩ | ⟨result, -, -, given, -⟩
      · rw [further.drawn.items_eq, (List.append_eq_nil_iff.mp empty).2, List.append_nil]
      · rw [nothing] at given
        cases given
    · rw [drew.readings, follows.drawn.records_eq]

/-- When a call gives nothing, all cards of the reader were put down, each once and in order. -/
theorem trace_of_none {options : Options} {reader : Reader} {count : Nat} {before : List Step}
    {last : Step} (done : (ofFeed options (.reading reader)).steps count = .ok (before ++ [last]))
    (nothing : last.result = none) :
    Record.atLevel .trace ((before ++ [last]).flatMap Step.records) =
      (cardsOf (Feed.reading reader).items).map .card := by
  obtain ⟨items, follows, readings, called, -⟩ := (Follows.start options (.reading reader)).at done
  obtain ⟨more, all, later⟩ := follows.items_of_none called nothing
  have drawn : ((before ++ [last]).flatMap Step.records).filter Record.isReading =
      (Feed.reading reader).items.flatMap (Feed.reading reader).records := by
    rw [List.flatMap_append, List.flatMap_singleton, List.filter_append, readings, later, all,
      List.nil_append, List.flatMap_append]
  rw [← Record.atLevel_readings (Or.inl rfl), drawn, reader.trace_records]

end Statements

namespace Origin

def source : Origin → Source
  | text deck => { bytes := Encoding.utf8.encode deck }
  | bytes source | decoded source => source

def encoding (options : Options) : Origin → Encoding
  | bytes _ => options.encoding
  | text _ | decoded _ => .utf8

theorem statements_eq (options : Options) (origin : Origin) :
    origin.statements options =
      Statements.ofFeed options (.ofSource (origin.encoding options) origin.source) := by
  cases origin <;> rfl

/--
The journal is a faithful ledger of a run to its end, and of more calls after it: each call puts
down what it gives, an error of the source is the last record of all, and each line that is decoded
is put down once, in its order and with its number, whether its card is ignored or not.
-/
theorem steps_faithful {options : Options} (counted : options.maxContinuations ≠ some topLimit)
    (origin : Origin) (extra : Nat) :
    ∃ steps, (origin.statements options).steps
        ((origin.statements options).run.results.length + (extra + 1)) = .ok steps ∧
      steps.map Step.result = (origin.statements options).run.results.map some ++
        List.replicate (extra + 1) none ∧
      (∀ step ∈ steps, step.Faithful) ∧
      (∀ step ∈ steps, ∀ error, step.result = some (.error error) →
        (steps.flatMap Step.records).getLast? = some ⟨.error, error.message⟩) ∧
      Record.atLevel .trace (steps.flatMap Step.records) =
        (origin.source.cards (origin.encoding options)).map (fun card => ⟨.trace,
          "card ".toList ++ Decimal.text card.line ++ ": ".toList ++
            Quoted.text (Text.trimEnd card.body)⟩) ∧
      (origin.source.cards (origin.encoding options)).map Card.line =
        List.range' 1 (origin.source.cards (origin.encoding options)).length := by
  rw [origin.statements_eq]
  generalize origin.source = source
  generalize origin.encoding options = encoding
  have sound := Statements.run_fault_none counted
    (Reader.ascending { encoding := encoding, source := source }).1
  obtain ⟨steps, done, results⟩ := Statements.steps_of_run sound (extra + 1)
  have start := Statements.Follows.start options (.ofSource encoding source)
  refine ⟨steps, done, results, Statements.faithful_of_steps done, ?_, ?_,
    source.lines_cards encoding⟩
  · intro step member error given
    exact start.getLast?_of_failure done member given
  -- the last call gives nothing, and so all items were drawn
  · rcases steps.eq_nil_or_concat' with rfl | ⟨before, last, rfl⟩
    · have lengths := congrArg List.length results
      simp at lengths
    · rw [List.replicate_succ', ← List.append_assoc, List.map_append] at results
      have nothing := (List.cons.inj (List.append_inj' results rfl).2).1
      rw [← source.cardsOf_items]
      exact Statements.trace_of_none done nothing

/--
A statement with a stray character and one card too many, a comment, and a statement that is dropped
because the line behind it is not decoded.
-/
def brokenOrigin : Origin :=
  let deck : Text := "      A = ?\n     1B\nC\n      D = 1\n     1\u00E9\n      E\n".toList
  .bytes { bytes := Encoding.latin1.encode deck }

def brokenOptions : Options := { comments := true, maxContinuations := some 0, encoding := .ascii }

theorem steps_faithful_broken :
    ∃ steps, (brokenOrigin.statements brokenOptions).steps
        ((brokenOrigin.statements brokenOptions).run.results.length + (2 + 1)) = .ok steps ∧
      steps.map Step.result = (brokenOrigin.statements brokenOptions).run.results.map some ++
        List.replicate (2 + 1) none ∧
      (∀ step ∈ steps, step.Faithful) ∧
      (∀ step ∈ steps, ∀ error, step.result = some (.error error) →
        (steps.flatMap Step.records).getLast? = some ⟨.error, error.message⟩) ∧
      Record.atLevel .trace (steps.flatMap Step.records) =
        (brokenOrigin.source.cards (brokenOrigin.encoding brokenOptions)).map (fun card => ⟨.trace,
          "card ".toList ++ Decimal.text card.line ++ ": ".toList ++
            Quoted.text (Text.trimEnd card.body)⟩) ∧
      (brokenOrigin.source.cards (brokenOrigin.encoding brokenOptions)).map Card.line =
        List.range' 1
          (brokenOrigin.source.cards (brokenOrigin.encoding brokenOptions)).length :=
  steps_faithful (by decide : brokenOptions.maxContinuations ≠ some topLimit) brokenOrigin 2

end Origin

end CardDeck
