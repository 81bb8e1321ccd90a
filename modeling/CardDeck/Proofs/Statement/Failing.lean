import CardDeck.Proofs.Statement.Partition

set_option autoImplicit false

namespace CardDeck

namespace Lookahead

theorem ahead_takeRelevant {options : Options} {accepts : Item → Bool} {cards : Lookahead}
    {item : Item} (taken : (cards.takeRelevant options accepts).item = some item) :
    (cards.takeRelevant options accepts).rest.ahead = none := by
  fun_induction takeRelevant options accepts cards with
  | case1 cards ended =>
    rw [ended] at taken
    cases taken
  | case2 cards other shown ignored further ih => exact ih taken
  | case3 cards other shown kept =>
    rw [nextIf] at taken ⊢
    split at taken
    · rename_i accepted
      rw [if_pos accepted]
      rfl
    · cases taken

theorem suffix_feed {cards : Lookahead} {item : Item} {after : List Item}
    (left : item :: after <:+ cards.items) : after <:+ cards.feed.items := by
  rw [items] at left
  cases held : cards.ahead with
  | none =>
    rw [held] at left
    exact (List.suffix_cons item after).trans left
  | some shown =>
    rw [held] at left
    rcases List.suffix_cons_iff.mp left with same | later
    · exact (List.cons.inj same).2 ▸ List.suffix_refl after
    · exact (List.suffix_cons item after).trans later

end Lookahead

namespace Statements

theorem ahead_gather {options : Options} {assembly : Assembly} {cards : Lookahead}
    {gathered : Gathered} {error : SourceError}
    (done : gather options assembly cards = .ok gathered)
    (failed : gathered.result = .error error) :
    gathered.rest.ahead = none := by
  fun_induction gather options assembly cards generalizing gathered with
  | case1 =>
    obtain ⟨statement, -, same⟩ := Fault.bind_eq_ok.mp done
    cases same
    cases failed
  | case2 =>
    rename_i taken
    cases done
    exact Lookahead.ahead_takeRelevant taken
  | case3 =>
    rename_i ih
    obtain ⟨joined, -, more⟩ := Fault.bind_eq_ok.mp done
    obtain ⟨later, there, same⟩ := Fault.bind_eq_ok.mp more
    cases same
    have dropped := ih joined there failed
    exact dropped

theorem ahead_next {statements : Statements} {step : Step} {error : SourceError}
    (done : statements.next = .ok step) (failed : step.result = some (.error error)) :
    step.rest.cards.ahead = none := by
  unfold next at done
  split at done
  · cases done
    cases failed
  · dsimp only at done
    split at done
    · cases done
      cases failed
    · rename_i taken
      cases done
      exact Lookahead.ahead_takeRelevant taken
    · obtain ⟨started, -, more⟩ := Fault.bind_eq_ok.mp done
      obtain ⟨gathered, there, same⟩ := Fault.bind_eq_ok.mp more
      cases same
      exact ahead_gather there (Option.some.inj failed)

theorem nextItems_of_relevant_nil {options : Options} {before : List Item}
    (nothing : options.relevant before = []) (error : SourceError) (after : List Item) :
    nextItems options (before ++ .error error :: after) = .ok (some (.error error, after)) := by
  induction before with
  | nil => rfl
  | cons item before ih =>
    cases item with
    | error other => cases nothing
    | ok card =>
      cases ignored : options.ignores card with
      | true =>
        rw [Options.relevant_of_ignored ignored] at nothing
        rw [List.cons_append, nextItems, if_pos ignored, ih nothing]
      | false =>
        rw [Options.relevant_of_kept ignored] at nothing
        cases nothing

/-- A call before an error gives a statement from the items before it, or the error itself. -/
theorem nextItems_append_error {options : Options} {before after : List Item} {error : SourceError}
    {next : Option (Result × List Item)} (clean : Clean before)
    (given : nextItems options (before ++ .error error :: after) = .ok next) :
    next = some (.error error, after) ∨
      ∃ statement rest, rest <:+ before ∧
        next = some (.ok statement, rest ++ .error error :: after) := by
  rcases options.relevant_cases before with ⟨nothing, -⟩ | ⟨other, rest, failed, -⟩ |
    ⟨first, continuations, rest, opens⟩
  · left
    rw [nextItems_of_relevant_nil nothing] at given
    exact (Except.ok.inj given).symm
  · exact absurd failed clean.relevant.ne_error
  · rw [(opens.append_error error after).nextItems] at given
    obtain ⟨started, -, joining⟩ := Fault.bind_eq_ok.mp given
    obtain ⟨joined, -, closing⟩ := Fault.bind_eq_ok.mp joining
    obtain ⟨closed, ending, same⟩ := Fault.bind_eq_ok.mp closing
    obtain rfl := Except.ok.inj same
    cases rest with
    | nil =>
      left
      exact congrArg some (Except.ok.inj ending).symm
    | cons item more =>
      cases item with
      | error other => exact absurd rfl (clean.suffix opens.suffix).ne_error
      | ok card =>
        right
        rw [List.cons_append, Assembly.closeBefore_of_ne (by
          intro other items same
          cases same)] at ending
        obtain ⟨statement, -, closed⟩ := Fault.bind_eq_ok.mp ending
        refine ⟨statement, .ok card :: more, opens.suffix, ?_⟩
        exact congrArg some (Except.ok.inj closed).symm

/-- Nothing more comes, as an error was given or nothing is left. -/
def Ended (statements : Statements) : Prop :=
  statements.finished = true ∨ statements.cards.items = []

theorem Ended.next {statements : Statements} (ended : statements.Ended) :
    ∃ step, statements.next = .ok step ∧ step.result = none ∧ step.rest.Ended := by
  by_cases finished : statements.finished = true
  · exact ⟨_, next_of_finished finished, rfl, ended⟩
  · have going := Bool.eq_false_iff.mpr finished
    rcases ended with given | empty
    · exact absurd given finished
    · have nothing : nextItems statements.options statements.cards.items = .ok none := by
        rw [empty]
        rfl
      obtain ⟨step, done, result, -, -, left⟩ := next_of_none going nothing
      exact ⟨step, done, result, Or.inr left⟩

theorem ended_of_next {statements : Statements} {step : Step} (done : statements.next = .ok step)
    (nothing : step.result = none) : step.rest.Ended := by
  by_cases finished : statements.finished = true
  · rw [next_of_finished finished] at done
    cases done
    exact Or.inl finished
  · rcases next_eq_ok (Bool.eq_false_iff.mpr finished) done with
      ⟨-, -, -, left⟩ | ⟨result, rest, -, given, -⟩
    · exact Or.inr left
    · rw [given] at nothing
      cases nothing

theorem steps_succ {statements : Statements} {step : Step} {count : Nat} {later : List Step}
    (done : statements.next = .ok step) (called : step.rest.steps count = .ok later) :
    statements.steps (count + 1) = .ok (step :: later) := by
  rw [Statements.steps, done, Fault.ok_bind, called]
  rfl

theorem Ended.steps {statements : Statements} (ended : statements.Ended) (count : Nat) :
    ∃ steps, statements.steps count = .ok steps ∧
      steps.map Step.result = List.replicate count none := by
  induction count generalizing statements with
  | zero => exact ⟨[], rfl, rfl⟩
  | succ count ih =>
    obtain ⟨step, done, nothing, further⟩ := ended.next
    obtain ⟨later, called, results⟩ := ih further
    refine ⟨step :: later, steps_succ done called, ?_⟩
    rw [List.map_cons, nothing, results]
    rfl

/-- Calls give the results of the run, and nothing from then on. -/
theorem steps_of_run {statements : Statements} (sound : statements.run.fault = none) (extra : Nat) :
    ∃ steps, statements.steps (statements.run.results.length + extra) = .ok steps ∧
      steps.map Step.result = statements.run.results.map some ++ List.replicate extra none := by
  fun_induction run statements with
  | case1 statements fault => cases sound
  | case2 statements step done nothing =>
    rw [List.length_nil, Nat.zero_add]
    cases extra with
    | zero => exact ⟨[], rfl, rfl⟩
    | succ extra =>
      obtain ⟨steps, called, results⟩ := (ended_of_next done nothing).steps extra
      refine ⟨step :: steps, steps_succ done called, ?_⟩
      rw [List.map_cons, nothing, results]
      rfl
  | case3 statements step done result given later ih =>
    obtain ⟨steps, called, results⟩ := ih sound
    refine ⟨step :: steps, ?_, ?_⟩
    · rw [List.length_cons, Nat.succ_add]
      exact steps_succ done called
    · rw [List.map_cons, given, results]
      rfl

/--
The error that ends the sequence is still to come, or it was given; what stands behind it was never
taken from the feed.
-/
inductive Awaits (after : List Item) (statements : Statements) : Prop where
  | coming {before : List Item} {error : SourceError} (going : statements.finished = false)
    (clean : Clean before)
    (items : statements.cards.items = before ++ .error error :: after)
  | given (finished : statements.finished = true) (left : statements.cards.feed.items = after)

theorem Awaits.suffix {after : List Item} {statements : Statements}
    (awaits : Awaits after statements) : after <:+ statements.cards.feed.items := by
  cases awaits with
  | coming going clean items => exact Lookahead.suffix_feed ⟨_, items.symm⟩
  | given finished left => exact left.symm ▸ List.suffix_refl after

theorem Awaits.next {after : List Item} {statements : Statements} {step : Step}
    (awaits : Awaits after statements) (done : statements.next = .ok step) :
    Awaits after step.rest := by
  cases awaits with
  | given finished left =>
    rw [next_of_finished finished] at done
    cases done
    exact Awaits.given finished left
  | coming going clean items =>
    rename_i before error
    have outcome := next_eq_ok going done
    rw [items] at outcome
    rcases outcome with ⟨given, -⟩ | ⟨result, rest, given, came, further, left⟩
    · rcases nextItems_append_error clean given with same | ⟨statement, rest, -, same⟩
      · cases same
      · cases same
    · rcases nextItems_append_error clean given with same | ⟨statement, rest, suffix, same⟩
      · cases same
        have dropped := ahead_next done came
        rw [Lookahead.items, dropped] at left
        exact Awaits.given further left
      · cases same
        exact Awaits.coming further (clean.suffix suffix) left

theorem Awaits.steps {after : List Item} {statements : Statements} {count : Nat}
    {steps : List Step} (awaits : Awaits after statements)
    (done : statements.steps count = .ok steps) : ∀ step ∈ steps, Awaits after step.rest := by
  induction count generalizing statements steps with
  | zero =>
    cases done
    intro step member
    cases member
  | succ count ih =>
    obtain ⟨step, called, more⟩ := Fault.bind_eq_ok.mp done
    obtain ⟨later, there, same⟩ := Fault.bind_eq_ok.mp more
    cases same
    have further := awaits.next called
    intro other member
    rcases List.mem_cons.mp member with here | behind
    · rw [here]
      exact further
    · exact ih further there other behind

theorem exists_statement_of_opens {options : Options} {items rest : List Item} {first : Card}
    {continuations : List Card} (opens : options.Opens items first continuations rest)
    (clean : Clean rest) (sound : (runItems options items).fault = none) :
    ∃ joined statement,
      (do (← Assembly.start first).joinAll options continuations) = .ok joined ∧
        joined.finish = .ok statement ∧
        nextItems options items = .ok (some (.ok statement, rest)) := by
  cases given : nextItems options items with
  | error fault =>
    rw [runItems_of_error given] at sound
    cases sound
  | ok next =>
    have outcome := opens.nextItems
    rw [given] at outcome
    obtain ⟨started, begun, joining⟩ := Fault.bind_eq_ok.mp outcome.symm
    obtain ⟨joined, held, closing⟩ := Fault.bind_eq_ok.mp joining
    rw [Assembly.closeBefore_of_ne fun error more same => absurd same clean.ne_error] at closing
    obtain ⟨closed, finishing, same⟩ := Fault.bind_eq_ok.mp closing
    obtain ⟨statement, finished, made⟩ := Fault.bind_eq_ok.mp finishing
    obtain rfl := Except.ok.inj made
    obtain rfl := Except.ok.inj same
    refine ⟨joined, statement, ?_, finished, rfl⟩
    rw [begun, Fault.ok_bind, held]

/-- A group that an error follows at once is dropped; any other is closed by what follows it. -/
theorem nextItems_of_opens {options : Options} {items rest : List Item} {first : Card}
    {continuations : List Card} {joined : Assembly} {statement : Statement}
    (opens : options.Opens items first continuations rest) (clean : Clean rest)
    (held : (do (← Assembly.start first).joinAll options continuations) = .ok joined)
    (finished : joined.finish = .ok statement) (error : SourceError) (after : List Item) :
    nextItems options (items ++ .error error :: after) =
      .ok (some (if rest = [] then (.error error, after)
        else (.ok statement, rest ++ .error error :: after))) := by
  obtain ⟨started, begun, joining⟩ := Fault.bind_eq_ok.mp held
  rw [(opens.append_error error after).nextItems, begun, Fault.ok_bind, joining, Fault.ok_bind]
  cases rest with
  | nil => rfl
  | cons item more =>
    cases item with
    | error other => exact absurd rfl clean.ne_error
    | ok card =>
      rw [if_neg (List.cons_ne_nil _ _), List.cons_append, Assembly.closeBefore_of_ne (by simp),
        finished]
      rfl

theorem relevant_of_run_nil {options : Options} {items : List Item} (clean : Clean items)
    (run : runItems options items = { results := [] }) : options.relevant items = [] := by
  rcases options.relevant_cases items with ⟨nothing, -⟩ | ⟨error, rest, failed, -⟩ |
    ⟨first, continuations, rest, opens⟩
  · exact nothing
  · exact absurd failed clean.relevant.ne_error
  · obtain ⟨joined, statement, -, -, given⟩ :=
      exists_statement_of_opens opens (clean.suffix opens.suffix) (by rw [run])
    rw [runItems_of_statement given] at run
    cases congrArg Run.results run

/-- An error drops the last of the statements of the items before it, and comes in its place. -/
theorem runItems_broken_off {options : Options} {before : List Item} {whole : List Statement}
    (clean : Clean before) (run : runItems options before = { results := whole.map .ok })
    (error : SourceError) (after : List Item) :
    runItems options (before ++ .error error :: after) =
      { results := whole.dropLast.map .ok ++ [.error error] } := by
  induction before, clean using options.clean_induction generalizing whole with
  | nothing items clean empty next =>
    rw [runItems_of_none next, Run.mk.injEq] at run
    rw [runItems_of_failure (nextItems_of_relevant_nil empty error after),
      List.map_eq_nil_iff.mp run.1.symm]
    rfl
  | group items first continuations rest clean further opens ih =>
    obtain ⟨joined, statement, held, finished, here⟩ :=
      exists_statement_of_opens opens further (by rw [run])
    have there := nextItems_of_opens opens further held finished error after
    rw [runItems_of_statement here, Run.mk.injEq] at run
    obtain ⟨results, sound⟩ := run
    obtain ⟨tail, rfl, later⟩ : ∃ tail, whole = statement :: tail ∧
        runItems options rest = { results := tail.map .ok } := by
      cases whole with
      | nil => cases results
      | cons front tail =>
        rw [List.map_cons, List.cons.injEq, Except.ok.injEq] at results
        refine ⟨tail, by rw [results.1], ?_⟩
        rw [← results.2, ← sound]
    by_cases last : rest = []
    · -- Nothing follows the group, so that its statement is the one that the error drops.
      rw [if_pos last] at there
      rw [last, runItems_of_none rfl, Run.mk.injEq] at later
      rw [runItems_of_failure there, List.map_eq_nil_iff.mp later.1.symm]
      rfl
    · have more : tail ≠ [] := by
        rintro rfl
        exact opens.relevant_ne_nil further last (relevant_of_run_nil further later)
      rw [if_neg last] at there
      rw [runItems_of_statement there, ih later, List.dropLast_cons_of_ne_nil more]
      rfl

/-- A run without a fault over items with an error gives statements, and the error after them. -/
theorem exists_closed {options : Options} {before after : List Item} {error : SourceError}
    (clean : Clean before)
    (sound : (runItems options (before ++ .error error :: after)).fault = none) :
    ∃ closed : List Statement, runItems options (before ++ .error error :: after) =
      { results := closed.map .ok ++ [.error error] } := by
  -- What a call leaves of the items before the error is any shorter end of them.
  induction length : before.length using Nat.strongRecOn generalizing before with
  | ind length ih =>
    cases given : nextItems options (before ++ .error error :: after) with
    | error fault =>
      rw [runItems_of_error given] at sound
      cases sound
    | ok next =>
      rcases nextItems_append_error clean given with same | ⟨statement, rest, suffix, same⟩
      · rw [same] at given
        exact ⟨[], runItems_of_failure given⟩
      · rw [same] at given
        have fewer := nextItems_length_lt given
        rw [List.length_append, List.length_append] at fewer
        rw [runItems_of_statement given] at sound ⊢
        obtain ⟨closed, run⟩ := ih rest.length (by omega) (clean.suffix suffix) sound rfl
        refine ⟨statement :: closed, ?_⟩
        rw [run]
        rfl

/-- The results before an error are those of the items before it, the last of them left out. -/
theorem runItems_append_error {options : Options} {before : List Item}
    (clean : Clean before) (lines : Ascending (cardsOf before))
    (counted : options.maxContinuations ≠ some topLimit) (error : SourceError)
    (after : List Item) :
    ∃ statements, runItems options before = { results := statements.map .ok } ∧
      runItems options (before ++ .error error :: after) =
        { results := statements.dropLast.map .ok ++ [.error error] } ∧
      (statements = [] → options.relevant before = []) := by
  obtain ⟨statements, run, -⟩ := runItems_partition clean lines counted
  refine ⟨statements, run, runItems_broken_off clean run error after, ?_⟩
  rintro rfl
  exact relevant_of_run_nil clean run

/--
A run over items with an error: the results of the items before it, without the last of them, and
then the error. From then on every call gives nothing, and no call ever takes an item from behind
the error.
-/
theorem run_failure {options : Options} {feed : Feed} {before : List Card} {error : SourceError}
    {after : List Item} (items : feed.items = before.map .ok ++ .error error :: after)
    (lines : Ascending before) (counted : options.maxContinuations ≠ some topLimit) :
    ∃ statements : List Statement, (ofFeed options (.listed (before.map .ok))).run =
        { results := statements.map .ok } ∧
      (ofFeed options feed).run = { results := statements.dropLast.map .ok ++ [.error error] } ∧
      ∀ extra, ∃ steps,
        (ofFeed options feed).steps ((ofFeed options feed).run.results.length + extra) =
          .ok steps ∧
        steps.map Step.result =
          (ofFeed options feed).run.results.map some ++ List.replicate extra none ∧
        ∀ step ∈ steps, after <:+ step.rest.cards.feed.items := by
  have clean := Clean.map_ok before
  obtain ⟨statements, front, whole, -⟩ := runItems_append_error clean
    ((cardsOf_map_ok before).symm ▸ lines) counted error after
  have run : (ofFeed options feed).run =
      { results := statements.dropLast.map .ok ++ [.error error] } := by
    rw [run_eq_runItems rfl, ← whole, ← items]
    rfl
  refine ⟨statements, ?_, run, ?_⟩
  · rw [run_eq_runItems rfl, ← front, ofFeed, Lookahead.items, Feed.items_listed]
    rfl
  · intro extra
    have sound : (ofFeed options feed).run.fault = none := by rw [run]
    obtain ⟨steps, done, results⟩ := steps_of_run sound extra
    have awaits : Awaits after (ofFeed options feed) := Awaits.coming rfl clean items
    refine ⟨steps, done, results, ?_⟩
    intro step member
    exact (awaits.steps done step member).suffix

/-- A statement, and one with a literal that is open on its second card. -/
def openDeck : List Card :=
  [Card.ofLine 1 "      A = 1".toList, Card.ofLine 2 "      B = 'S".toList,
    Card.ofLine 3 "     1T".toList]

/-- What stands behind an error, a card that closes the literal among it. -/
def unreadItems : List Item := [.ok (Card.ofLine 5 "     2'".toList), .error (.read 6 [])]

theorem run_failure_open :
    ∃ statements : List Statement, (ofFeed {} (.listed (openDeck.map .ok))).run =
        { results := statements.map .ok } ∧
      (ofFeed {} (.listed (openDeck.map .ok ++ .error (.read 4 []) :: unreadItems))).run =
        { results := statements.dropLast.map .ok ++ [.error (.read 4 [])] } ∧
      ∃ steps, (ofFeed {} (.listed (openDeck.map .ok ++ .error (.read 4 []) :: unreadItems))).steps
          (statements.dropLast.length + 1 + 2) = .ok steps ∧
        ∀ step ∈ steps, unreadItems <:+ step.rest.cards.feed.items := by
  have lines : Ascending openDeck := by
    unfold Ascending
    decide
  obtain ⟨statements, front, whole, calls⟩ :=
    run_failure (Feed.items_listed _) lines (by decide : ({} : Options).maxContinuations ≠ _)
  obtain ⟨steps, done, -, left⟩ := calls 2
  rw [whole, List.length_append, List.length_map, List.length_singleton] at done
  exact ⟨statements, front, whole, steps, done, left⟩

end Statements

end CardDeck
