import CardDeck.Proofs.Command.Written
import CardDeck.Proofs.Statement.Legible

set_option autoImplicit false

namespace CardDeck

theorem Statements.legible_of_inTurn {options : Options}
    (counted : options.maxContinuations ≠ some topLimit) {source : Source}
    {written : List Statement} {error : Option SourceError}
    (results : (ofSource options source).run.results = inTurn written error) :
    ∀ statement ∈ written, statement.Legible := by
  intro statement member
  apply legible_of_run counted
  rw [results]
  exact mem_of_ok_mem_inTurn.mpr member

namespace Request

/--
Two requests for statements write the same exactly if they come to as many statements before an
error or the end, which agree, one by one, in the first and the last line, the label, the tokens and
the messages of the errors.
-/
theorem output_readable {request other : Request} (shows : request.cards = false)
    (shows' : other.cards = false) (counted : request.options.maxContinuations ≠ some topLimit)
    (counted' : other.options.maxContinuations ≠ some topLimit) (source deck : Source) :
    ∃ outcome outcome' written written' error error',
      request.run (.ok source) = .ok outcome ∧ other.run (.ok deck) = .ok outcome' ∧
      (Statements.ofSource request.options source).run.results = inTurn written error ∧
      (Statements.ofSource other.options deck).run.results = inTurn written' error' ∧
      (outcome.output = outcome'.output ↔
        written.map Statement.summary = written'.map Statement.summary) := by
  obtain ⟨outcome, written, error, done, results, -, tells⟩ := run_statements shows counted source
  obtain ⟨outcome', written', error', done', results', -, tells'⟩ :=
    run_statements shows' counted' deck
  refine ⟨outcome, outcome', written, written', error, error', done, done', results, results', ?_⟩
  rw [tells.output, tells'.output, ← List.flatMap_def, ← List.flatMap_def]
  exact Statement.dump_inj (Statements.legible_of_inTurn counted results)
    (Statements.legible_of_inTurn counted' results')

def forStatements (options : Options) (strict : Bool) : Request :=
  { deck := ['-'], options, cards := false, strict }

/-- A literal that holds what stands behind a token, and one that no delimiter ends. -/
def quotedDeck : Source :=
  { bytes := Encoding.utf8.encode "10    A = 'error: @1:2'\n      B = 'STATEMENT lines 2-2\n".toList }

/--
The same with other line ends, with a comment that is not the same bytes in every encoding, and with
a failure before the end of a third statement.
-/
def copiedDeck : Source :=
  { bytes := Encoding.latin1.encode
      ("10    A = 'error: @1:2'\r\n      B = 'STATEMENT lines 2-2\r\n".toList ++
        "C \u00E9\n      D\n".toList)
    failure := some "gone".toList }

theorem output_readable_copied :
    ∃ written written' error error',
      (Statements.ofSource {} quotedDeck).run.results = inTurn written error ∧
      (Statements.ofSource { encoding := .latin1, comments := true } copiedDeck).run.results =
        inTurn written' error' ∧
      written.map Statement.summary = written'.map Statement.summary := by
  have shows : (forStatements {} false).cards = false := rfl
  have shows' : (forStatements { encoding := .latin1, comments := true } true).cards = false := rfl
  obtain ⟨outcome, outcome', written, written', error, error', done, done', results, results',
    readable⟩ := output_readable shows shows' (by decide) (by decide) quotedDeck copiedDeck
  refine ⟨written, written', error, error', results, results', readable.mp ?_⟩
  have same : ((forStatements {} false).run (.ok quotedDeck)).map Outcome.output =
      ((forStatements { encoding := .latin1, comments := true } true).run (.ok copiedDeck)).map
        Outcome.output := by
    decide +kernel
  rw [done, done'] at same
  exact Except.ok.inj same

end Request

end CardDeck
