import CardDeck.Proofs.Statement.Failing

set_option autoImplicit false

namespace CardDeck

theorem Statement.strict_cases (statement : Statement) :
    (statement.isValid = true ∧ statement.strict = .ok statement) ∨
      ∃ error, statement.errors.head? = some error ∧ statement.strict = .error error := by
  cases found : statement.errors with
  | nil => simp [isValid, strict, found]
  | cons error errors => simp [isValid, strict, found]

/-- A result that is not passed, and why. -/
inductive Result.Fails : Result → Failure → Prop where
  | source (error : SourceError) : Fails (.error error) (.source error)
  | lex {statement : Statement} {error : LexError} (first : statement.errors.head? = some error) :
    Fails (.ok statement) (.lex error)

/-- The first failure where statements were closed and then an error of the source was met. -/
def Failure.earliest (closed : List Statement) (error : SourceError) : Failure :=
  match (closed.flatMap Statement.errors).head? with
  | some found => .lex found
  | none => .source error

/-- What strict reading makes of results: all of them are valid statements, or one fails. -/
inductive Strict : List Result → Except Failure (List Statement) → Prop where
  | nil : Strict [] (.ok [])
  | fails {result : Result} {failure : Failure} (fails : result.Fails failure)
    (later : List Result) : Strict (result :: later) (.error failure)
  | passes {statement : Statement} {later : List Result} {outcome : Except Failure (List Statement)}
    (valid : statement.isValid = true) (further : Strict later outcome) :
    Strict (.ok statement :: later) (outcome.map (statement :: ·))

namespace Strict

variable {results : List Result}

theorem not_fails {statement : Statement} (valid : statement.isValid = true) (failure : Failure) :
    ¬ Result.Fails (.ok statement) failure := by
  intro fails
  cases fails with
  | lex first =>
    rw [Statement.isValid, List.isEmpty_iff] at valid
    simp [valid] at first

theorem ok_iff {valid : List Statement} :
    Strict results (.ok valid) ↔
      results = valid.map .ok ∧ ∀ statement ∈ valid, statement.isValid = true := by
  constructor
  · intro strict
    generalize same : (Except.ok valid : Except Failure (List Statement)) = outcome at strict
    induction strict generalizing valid with
    | nil =>
      cases same
      simp
    | fails fails later => cases same
    | @passes statement later outcome here further ih =>
      cases outcome with
      | error failure => cases same
      | ok others =>
        cases same
        obtain ⟨rest, all⟩ := ih rfl
        exact ⟨by rw [rest]; rfl, List.forall_mem_cons.mpr ⟨here, all⟩⟩
  · rintro ⟨rfl, all⟩
    induction valid with
    | nil => exact Strict.nil
    | cons statement valid ih =>
      obtain ⟨here, others⟩ := List.forall_mem_cons.mp all
      exact Strict.passes here (ih others)

theorem error_iff {failure : Failure} :
    Strict results (.error failure) ↔ ∃ (before : List Statement) (result : Result)
      (after : List Result), results = before.map .ok ++ result :: after ∧
        (∀ statement ∈ before, statement.isValid = true) ∧ result.Fails failure := by
  constructor
  · intro strict
    generalize same : (Except.error failure : Except Failure (List Statement)) = outcome at strict
    induction strict with
    | nil => cases same
    | @fails result other fails later =>
      cases same
      exact ⟨[], result, later, rfl, by simp, fails⟩
    | @passes statement later outcome here further ih =>
      cases outcome with
      | ok others => cases same
      | error other =>
        cases same
        obtain ⟨before, result, after, rfl, all, fails⟩ := ih rfl
        exact ⟨statement :: before, result, after, rfl, List.forall_mem_cons.mpr ⟨here, all⟩, fails⟩
  · rintro ⟨before, result, after, rfl, all, fails⟩
    induction before with
    | nil => exact Strict.fails fails after
    | cons statement before ih =>
      obtain ⟨here, others⟩ := List.forall_mem_cons.mp all
      exact Strict.passes here (ih others)

theorem unique {outcome other : Except Failure (List Statement)} (strict : Strict results outcome)
    (again : Strict results other) : outcome = other := by
  induction strict generalizing other with
  | nil =>
    cases again
    rfl
  | fails fails later =>
    cases again with
    | fails fails' =>
      cases fails with
      | source error =>
        cases fails'
        rfl
      | lex first =>
        cases fails' with
        | lex first' => rw [Option.some.inj (first.symm.trans first')]
    | passes valid further => exact absurd fails (not_fails valid _)
  | passes valid further ih =>
    cases again with
    | fails fails => exact absurd fails (not_fails valid _)
    | passes valid' further' => rw [ih further']

theorem earliest (closed : List Statement) (error : SourceError) :
    Strict (closed.map .ok ++ [.error error]) (.error (Failure.earliest closed error)) := by
  induction closed with
  | nil => exact Strict.fails (.source error) []
  | cons statement closed ih =>
    rw [List.map_cons, List.cons_append, Failure.earliest, List.flatMap_cons]
    rcases statement.strict_cases with ⟨valid, -⟩ | ⟨lex, first, -⟩
    · have passed := Strict.passes valid ih
      rw [Statement.isValid, List.isEmpty_iff] at valid
      rw [valid]
      exact passed
    · obtain ⟨errors, found⟩ := List.head?_eq_some_iff.mp first
      rw [found]
      exact Strict.fails (.lex first) _

end Strict

namespace Statements

variable {statements : Statements} {step : Step}

theorem collect_of_none (next : statements.next = .ok step) (ended : step.result = none) :
    statements.collect = .ok (.ok []) := by
  rw [collect]
  split
  · simp_all
  · split <;> simp_all

theorem collect_of_failure {error : SourceError} (next : statements.next = .ok step)
    (given : step.result = some (.error error)) :
    statements.collect = .ok (.error (.source error)) := by
  rw [collect]
  split
  · simp_all
  · split <;> simp_all

theorem collect_of_statement {statement : Statement} (next : statements.next = .ok step)
    (given : step.result = some (.ok statement)) :
    statements.collect =
      match statement.strict with
      | .error error => .ok (.error (.lex error))
      | .ok valid => do return (← step.rest.collect).map (valid :: ·) := by
  rw [collect]
  split
  · simp_all
  · rename_i other called
    obtain rfl := Except.ok.inj (called.symm.trans next)
    split
    · simp_all
    · simp_all
    · rename_i closed taken
      obtain rfl := Except.ok.inj (Option.some.inj (taken.symm.trans given))
      cases closed.strict <;> rfl

/-- Where the lenient run has no fault, strict reading makes of the source what it makes of it. -/
theorem collect_strict (sound : statements.run.fault = none) :
    ∃ outcome, statements.collect = .ok outcome ∧ Strict statements.run.results outcome := by
  -- Both take the same steps; only where a statement is not valid does one of them stop earlier.
  fun_induction run statements with
  | case1 statements fault => cases sound
  | case2 statements step next ended => exact ⟨.ok [], collect_of_none next ended, Strict.nil⟩
  | case3 statements step next result given later ih =>
    cases result with
    | error error =>
      exact ⟨_, collect_of_failure next given, Strict.fails (.source error) _⟩
    | ok statement =>
      rw [collect_of_statement next given]
      rcases statement.strict_cases with ⟨valid, same⟩ | ⟨error, first, same⟩
      · obtain ⟨outcome, done, strict⟩ := ih sound
        refine ⟨outcome.map (statement :: ·), ?_, Strict.passes valid strict⟩
        simp only [same, done]
        rfl
      · refine ⟨_, ?_, Strict.fails (.lex first) _⟩
        simp only [same]

theorem collect_eq_ok_iff (sound : statements.run.fault = none)
    {outcome : Except Failure (List Statement)} :
    statements.collect = .ok outcome ↔ Strict statements.run.results outcome := by
  obtain ⟨only, done, strict⟩ := collect_strict sound
  constructor
  · intro same
    rw [done, Except.ok.injEq] at same
    rwa [← same]
  · intro other
    rw [done, strict.unique other]

/--
Where the lenient run has no fault, strict reading comes to the statements of the run if all of
them are valid, and otherwise to the failure of the first result that is none or is not valid.

If an error of the source is met, only the statements that were closed before it count: those that
the cards before it give, without the last of them.
-/
theorem collect_run {statements : Statements} (sound : statements.run.fault = none) :
    (∀ valid, statements.collect = .ok (.ok valid) ↔
      statements.run.results = valid.map .ok ∧ ∀ statement ∈ valid, statement.isValid = true) ∧
    (∀ failure, statements.collect = .ok (.error failure) ↔
      ∃ (before : List Statement) (result : Result) (after : List Result),
        statements.run.results = before.map .ok ++ result :: after ∧
        (∀ statement ∈ before, statement.isValid = true) ∧ result.Fails failure) ∧
    (∃ outcome, statements.collect = .ok outcome) ∧
    ∀ (cards : List Card) (error : SourceError) (after : List Item),
      statements.finished = false →
      statements.cards.items = cards.map .ok ++ .error error :: after →
      ∃ closed : List Statement, statements.run.results = closed.map .ok ++ [.error error] ∧
        (∀ whole : List Statement, (ofFeed statements.options (.listed (cards.map .ok))).run =
          { results := whole.map .ok } → closed = whole.dropLast) ∧
        statements.collect = .ok (.error (Failure.earliest closed error)) := by
  refine ⟨?_, ?_, ?_, ?_⟩
  · intro valid
    rw [collect_eq_ok_iff sound, Strict.ok_iff]
  · intro failure
    rw [collect_eq_ok_iff sound, Strict.error_iff]
  · obtain ⟨outcome, done, -⟩ := collect_strict sound
    exact ⟨outcome, done⟩
  · intro cards error after going items
    have clean := Clean.map_ok cards
    have run := run_eq_runItems going
    rw [items] at run
    obtain ⟨closed, results⟩ := exists_closed clean (run ▸ sound)
    rw [results] at run
    refine ⟨closed, by rw [run], ?_, ?_⟩
    · intro whole front
      rw [run_eq_runItems rfl, ofFeed, Lookahead.items, Feed.items_listed] at front
      have broken := runItems_broken_off clean front error after
      rw [results, Run.mk.injEq, List.append_cancel_right_eq] at broken
      exact (List.map_inj_right fun _ _ => Except.ok.inj).mp broken.1
    · rw [collect_eq_ok_iff sound, run]
      exact Strict.earliest closed error

theorem filterMap_results (closed : List Statement) (error : SourceError) :
    (closed.map .ok ++ [.error error] : List Result).filterMap Except.toOption = closed := by
  rw [List.filterMap_append, List.filterMap_map]
  show closed.filterMap some ++ [] = closed
  rw [List.filterMap_some, List.append_nil]

/-- Two statements, and an error that finds the second open, with its stray character. -/
def failingItems (first : Text) : List Item :=
  [.ok (Card.ofLine 1 first), .ok (Card.ofLine 2 "      B = ?".toList), .error (.read 3 [])]

theorem collect_run_open :
    (ofFeed {} (.listed (failingItems "      A = 1".toList))).collect =
        .ok (.error (.source (.read 3 []))) ∧
      (ofFeed {} (.listed (failingItems "      A = $".toList))).collect =
        .ok (.error (.lex (.strayCharacter '$' ⟨1, 11⟩))) := by
  have outcome : ∀ first errors,
      ((ofFeed {} (.listed (failingItems first))).run.results.filterMap Except.toOption).flatMap
        Statement.errors = errors →
      ∃ closed : List Statement, closed.flatMap Statement.errors = errors ∧
        (ofFeed {} (.listed (failingItems first))).collect =
          .ok (.error (Failure.earliest closed (.read 3 []))) := by
    intro first errors found
    have items : (ofFeed {} (.listed (failingItems first))).cards.items =
        [Card.ofLine 1 first, Card.ofLine 2 "      B = ?".toList].map .ok ++
          [.error (.read 3 [])] :=
      Feed.items_listed _
    have sound : (ofFeed {} (.listed (failingItems first))).run.fault = none := by
      apply run_fault_none (by decide)
      rw [Feed.items_listed]
      show Ascending [Card.ofLine 1 first, Card.ofLine 2 "      B = ?".toList]
      simp [Ascending]
    obtain ⟨-, -, -, failed⟩ := collect_run sound
    obtain ⟨closed, results, -, collected⟩ := failed _ _ _ rfl items
    rw [results, filterMap_results] at found
    exact ⟨closed, found, collected⟩
  obtain ⟨closed, valid, source⟩ := outcome "      A = 1".toList [] (by decide +kernel)
  obtain ⟨others, stray, lex⟩ :=
    outcome "      A = $".toList [.strayCharacter '$' ⟨1, 11⟩] (by decide +kernel)
  rw [Failure.earliest, valid] at source
  rw [Failure.earliest, stray] at lex
  exact ⟨source, lex⟩

end Statements

end CardDeck
