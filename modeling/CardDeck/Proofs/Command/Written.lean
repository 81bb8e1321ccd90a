import CardDeck.Command
import CardDeck.Proofs.Feed.Operations
import CardDeck.Proofs.Statement.Interrupted
import CardDeck.Proofs.Statement.Ledger
import CardDeck.Proofs.Text.Cut

set_option autoImplicit false

namespace CardDeck

/-- Values, and behind them the error that ended them, if one did. -/
def inTurn {ε α : Type} (values : List α) (error : Option ε) : List (Except ε α) :=
  values.map .ok ++ error.toList.map .error

@[simp] theorem untilError_inTurn {ε α : Type} (values : List α) (error : Option ε) :
    untilError (inTurn values error) = (values, error) := by
  induction values with
  | nil => cases error <;> rfl
  | cons value values ih =>
    show (value :: (untilError (inTurn values error)).1, (untilError (inTurn values error)).2) = _
    rw [ih]

theorem mem_of_ok_mem_inTurn {ε α : Type} {values : List α} {error : Option ε} {value : α} :
    .ok value ∈ inTurn values error ↔ value ∈ values := by
  cases error <;> simp [inTurn]

theorem filterMap_inTurn (values : List Statement) (error : Option SourceError) :
    (inTurn values error).filterMap Result.failure? = error.toList := by
  have clean : (values.map Except.ok).filterMap Result.failure? = [] := by
    rw [List.filterMap_map]
    exact List.filterMap_eq_nil_iff.mpr fun _ _ => rfl
  rw [inTurn, List.filterMap_append, clean]
  cases error <;> rfl

namespace Statements

theorem runItems_inTurn (options : Options) (items : List Item) :
    ∃ statements error, (runItems options items).results = inTurn statements error := by
  fun_induction runItems options items with
  | case1 items fault next => exact ⟨[], none, rfl⟩
  | case2 items next => exact ⟨[], none, rfl⟩
  | case3 items error rest next => exact ⟨[], some error, rfl⟩
  | case4 items statement rest next later ih =>
    obtain ⟨statements, error, same⟩ := ih
    exact ⟨statement :: statements, error, congrArg (.ok statement :: ·) same⟩

end Statements

theorem Encoding.name_inj {encoding other : Encoding} (same : encoding.name = other.name) :
    encoding = other := by
  have read := ofName_name encoding
  rw [same, ofName_name other] at read
  exact (Except.ok.inj read).symm

namespace SourceError

theorem message_read (line : Nat) (reason : Text) :
    (read line reason).message =
      "read failed at line ".toList ++ (Decimal.text line ++ (": ".toList ++ reason)) := by
  show "read failed at line ".toList ++ Decimal.text line ++ ": ".toList ++ reason = _
  simp only [List.append_assoc]

theorem message_decode (line : Nat) (encoding : Encoding) (offset : Nat) :
    (decode line encoding offset).message = "invalid ".toList ++ (encoding.name ++
      (" data at line ".toList ++ (Decimal.text line ++ (", byte ".toList ++
        Decimal.text offset)))) := by
  show "invalid ".toList ++ encoding.name ++ " data at line ".toList ++ Decimal.text line ++
    ", byte ".toList ++ Decimal.text offset = _
  simp only [List.append_assoc]

/-- An error of a source is told from its message. -/
theorem message_inj {error other : SourceError} (same : error.message = other.message) :
    error = other := by
  have reason : ∀ rest : Text, (": ".toList ++ rest).head?.any Char.isDigit = false := fun _ => rfl
  have byte : ∀ rest : Text, (", byte ".toList ++ rest).head?.any Char.isDigit = false :=
    fun _ => rfl
  have named : ∀ {encoding other : Encoding} {rest others : Text},
      encoding.name ++ (" data at line ".toList ++ rest) =
        other.name ++ (" data at line ".toList ++ others) → encoding = other ∧ rest = others := by
    intro encoding other rest others same
    have plain : ∀ encoding : Encoding, ∀ c ∈ encoding.name, (c != ' ') = true := by
      intro encoding
      apply List.all_eq_true.mp
      cases encoding <;> rfl
    have stop : ∀ rest : Text, (" data at line ".toList ++ rest).head?.any (· != ' ') = false :=
      fun _ => rfl
    obtain ⟨name, behind⟩ := Text.span_inj (plain _) (plain _) (stop _) (stop _) same
    exact ⟨Encoding.name_inj name, List.append_cancel_left behind⟩
  cases error with
  | read line why =>
    cases other with
    | read line' why' =>
      rw [message_read, message_read] at same
      obtain ⟨lines, behind⟩ :=
        Decimal.append_inj (reason _) (reason _) (List.append_cancel_left same)
      rw [lines, List.append_cancel_left behind]
    | decode line' encoding offset => cases congrArg List.head? same
  | decode line encoding offset =>
    cases other with
    | read line' why => cases congrArg List.head? same
    | decode line' encoding' offset' =>
      rw [message_decode, message_decode] at same
      obtain ⟨names, behind⟩ := named (List.append_cancel_left same)
      obtain ⟨lines, behind⟩ := Decimal.append_inj (byte _) (byte _) behind
      rw [names, lines, Decimal.text_inj.mp (List.append_cancel_left behind)]

end SourceError

/--
The outcome tells what came of a reading: all that was written until it ended, and then either the
error that ended it, or the number of invalid statements if they count, or nothing. An error is
reported only where it came. On the standard error nothing else is written if no record is shown,
and only the error's own record before it if the records of errors are.
-/
structure Outcome.Tells (outcome : Outcome) (dumps : List Text) (error : Option SourceError)
    (strict : Prop) (invalid : Nat) : Prop where
  output : outcome.output = dumps.flatten
  failed : ∀ failure, error = some failure →
    outcome.status = 1 ∧ outcome.errors = "Error: ".toList ++ failure.message ++ ['\n']
  refused : error = none → strict → 0 < invalid → outcome.status = 1 ∧
    outcome.errors = Decimal.text invalid ++ " statement(s) with lex errors\n".toList
  passed : error = none → ¬ (strict ∧ 0 < invalid) → outcome.status = 0 ∧ outcome.errors = []
  told : ∀ failure : SourceError,
    outcome.errors = "Error: ".toList ++ failure.message ++ ['\n'] → error = some failure
  silent : ∀ logger : Logger, (∀ record, logger.shows record = false) →
    outcome.standardError logger = outcome.errors
  logged : ∀ logger : Logger, (∀ record, logger.shows record = (record.level == .error)) →
    outcome.standardError logger =
      logger.lines (error.toList.map fun failure => ⟨.error, failure.message⟩) ++ outcome.errors

namespace Outcome

variable {outcome : Outcome} {logger : Logger}

theorem standardError_of_silent (silent : ∀ record, logger.shows record = false) :
    outcome.standardError logger = outcome.errors := by
  have nothing : outcome.records.filter logger.shows = [] := by
    apply List.filter_eq_nil_iff.mpr
    intro record _
    exact Bool.eq_false_iff.mp (silent record)
  rw [standardError, Logger.text, nothing, logger.lines_nil, List.nil_append]

theorem standardError_of_logged {error : Option SourceError}
    (logged : Record.atLevel .error outcome.records = error.toList.map .failure)
    (shown : ∀ record, logger.shows record = (record.level == .error)) :
    outcome.standardError logger =
      logger.lines (error.toList.map fun failure => ⟨.error, failure.message⟩) ++
        outcome.errors := by
  have errors : outcome.records.filter logger.shows = Record.atLevel .error outcome.records :=
    List.filter_congr fun record _ => shown record
  rw [standardError, Logger.text, errors, logged]
  rfl

end Outcome

namespace Request

theorem conclude_some (output : Text) (records : List Record) (error : SourceError)
    (invalid : Nat) :
    conclude output records (some error) invalid =
      ⟨1, output, records, "Error: ".toList ++ error.message ++ ['\n']⟩ := rfl

theorem conclude_none (output : Text) (records : List Record) (invalid : Nat) :
    conclude output records none invalid =
      if invalid = 0 then ⟨0, output, records, []⟩
      else
        ⟨1, output, records, Decimal.text invalid ++ " statement(s) with lex errors\n".toList⟩ := rfl

theorem records_conclude (output : Text) (records : List Record) (error : Option SourceError)
    (invalid : Nat) : (conclude output records error invalid).records = records := by
  cases error with
  | some error => rw [conclude_some]
  | none =>
    rw [conclude_none]
    split <;> rfl

section Tells

variable {dumps : List Text} {records : List Record} {strict : Prop} {invalid : Nat}

theorem tells_failure {error : SourceError}
    (logged : Record.atLevel .error records = (some error).toList.map .failure) (count : Nat) :
    (conclude dumps.flatten records (some error) count).Tells dumps (some error) strict invalid := by
  rw [conclude_some]
  refine ⟨rfl, ?_, ?_, ?_, ?_, fun _ => Outcome.standardError_of_silent,
    fun _ => Outcome.standardError_of_logged logged⟩
  · intro failure same
    cases same
    exact ⟨rfl, rfl⟩
  · intro none
    cases none
  · intro none
    cases none
  · intro failure same
    have message := List.append_cancel_left (List.append_cancel_right same)
    rw [SourceError.message_inj message]

theorem tells_refusal
    (logged : Record.atLevel .error records = (none : Option SourceError).toList.map .failure)
    (on : strict) (found : 0 < invalid) :
    (conclude dumps.flatten records none invalid).Tells dumps none strict invalid := by
  rw [conclude_none, if_neg (Nat.ne_of_gt found)]
  refine ⟨rfl, ?_, ?_, ?_, ?_, fun _ => Outcome.standardError_of_silent,
    fun _ => Outcome.standardError_of_logged logged⟩
  · intro failure same
    cases same
  · intro _ _ _
    exact ⟨rfl, rfl⟩
  · intro _ passed
    exact absurd ⟨on, found⟩ passed
  · intro failure same
    exact absurd same (Decimal.append_ne rfl invalid)

theorem tells_success
    (logged : Record.atLevel .error records = (none : Option SourceError).toList.map .failure)
    (passed : ¬ (strict ∧ 0 < invalid)) :
    (conclude dumps.flatten records none 0).Tells dumps none strict invalid := by
  rw [conclude_none, if_pos rfl]
  refine ⟨rfl, ?_, ?_, ?_, ?_, fun _ => Outcome.standardError_of_silent,
    fun _ => Outcome.standardError_of_logged logged⟩
  · intro failure same
    cases same
  · intro _ on found
    exact absurd ⟨on, found⟩ passed
  · intro _ _
    exact ⟨rfl, rfl⟩
  · intro failure same
    cases congrArg List.head? same

theorem conclude_tells (dumps : List Text) {error : Option SourceError}
    (logged : Record.atLevel .error records = error.toList.map .failure) (strict : Prop)
    [Decidable strict] (invalid : Nat) :
    (conclude dumps.flatten records error (if strict then invalid else 0)).Tells dumps error strict
      invalid := by
  cases error with
  | some error => exact tells_failure logged _
  | none =>
    by_cases on : strict
    · rw [if_pos on]
      by_cases found : invalid = 0
      · rw [found]
        exact tells_success logged fun counts => Nat.lt_irrefl 0 counts.2
      · exact tells_refusal logged on (Nat.pos_of_ne_zero found)
    · rw [if_neg on]
      exact tells_success logged fun counts => on counts.1

end Tells

variable {request : Request}

/-- A request for statements writes those that come before an error, or before the end. -/
theorem run_statements (shows : request.cards = false)
    (counted : request.options.maxContinuations ≠ some topLimit) (source : Source) :
    ∃ outcome written error, request.run (.ok source) = .ok outcome ∧
      (Statements.ofSource request.options source).run.results = inTurn written error ∧
      outcome.records = (Statements.ofSource request.options source).journal ∧
      outcome.Tells (written.map Statement.dump) error (request.strict = true)
        (written.countP fun statement => !statement.isValid) := by
  obtain ⟨written, error, results⟩ :=
    Statements.runItems_inTurn request.options (Reader.itemsFrom request.options.encoding 0 source)
  rw [← Statements.run_ofSource] at results
  have sound := Statements.run_ofSource_fault counted source
  have logged : Record.atLevel .error (Statements.ofSource request.options source).journal =
      error.toList.map .failure := by
    rw [← filterMap_inTurn written error, ← results]
    exact Statements.error_journal sound
  refine ⟨_, written, error, ?_, results, records_conclude _ _ _ _,
    conclude_tells (written.map Statement.dump) logged (request.strict = true) _⟩
  rw [run, shows, if_neg Bool.false_ne_true, dumpStatements, sound, results, untilError_inTurn,
    ← List.flatMap_def]

end Request

end CardDeck
