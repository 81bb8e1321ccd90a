import CardDeck.Feed.Lookahead
import CardDeck.Statement.Assembly

/-!
The statements of a feed, one at a time.

A statement ends where the next relevant card does not continue it, so that one card is looked at
ahead. An error of the source ends the sequence; the statement that is open then is dropped, since
the part that was not read may belong to it.
-/

set_option autoImplicit false

namespace CardDeck

def Options.ignoresItem (options : Options) : Item → Bool
  | .ok card => options.ignores card
  | .error _ => false

/-- A card that continues a statement, or an error, which may hide one. -/
def continues : Item → Bool
  | .ok card => card.isContinuation
  | .error _ => true

/-- Passes over ignored cards, and takes the item after them if it is accepted. -/
def Lookahead.takeRelevant (options : Options) (accepts : Item → Bool) (cards : Lookahead) : Pull :=
  match _ : cards.peek.item with
  | none => cards.peek
  | some item =>
    if options.ignoresItem item then
      let further := takeRelevant options accepts cards.peek.rest.drop
      { further with records := cards.peek.records ++ further.records }
    else
      cards.nextIf accepts
termination_by cards.size
decreasing_by exact Lookahead.size_drop_peek_lt (by assumption)

namespace Lookahead

theorem size_nextIf_le (accepts : Item → Bool) (cards : Lookahead) :
    (cards.nextIf accepts).rest.size ≤ cards.size := by
  have shown := cards.size_peek_le
  simp only [nextIf]
  split
  · simp only [size, drop, Option.toList_none, List.length_nil] at shown ⊢
    omega
  · exact shown

theorem size_nextIf_lt {accepts : Item → Bool} {cards : Lookahead} {item : Item}
    (taken : (cards.nextIf accepts).item = some item) :
    (cards.nextIf accepts).rest.size < cards.size := by
  simp only [nextIf] at *
  split at taken
  next accepted => rw [if_pos accepted]; exact size_drop_peek_lt taken
  · cases taken

theorem size_takeRelevant_le (options : Options) (accepts : Item → Bool) (cards : Lookahead) :
    (cards.takeRelevant options accepts).rest.size ≤ cards.size := by
  fun_induction takeRelevant options accepts cards with
  | case1 cards => exact cards.size_peek_le
  | case2 cards item shown _ _ ih =>
    have := size_drop_peek_lt shown
    exact Nat.le_trans ih (Nat.le_of_lt this)
  | case3 cards => exact size_nextIf_le accepts cards

theorem size_takeRelevant_lt {options : Options} {accepts : Item → Bool} {cards : Lookahead}
    {item : Item} (taken : (cards.takeRelevant options accepts).item = some item) :
    (cards.takeRelevant options accepts).rest.size < cards.size := by
  fun_induction takeRelevant options accepts cards with
  | case1 cards ended => rw [ended] at taken; cases taken
  | case2 cards _ shown _ _ ih => exact Nat.lt_trans (ih taken) (size_drop_peek_lt shown)
  | case3 => exact size_nextIf_lt taken

end Lookahead

/-- The outcome of one statement or the error of the source that ended the sequence. -/
abbrev Result := Except SourceError Statement

structure Statements where
  options : Options
  cards : Lookahead
  finished : Bool := false

/-- What one call for the next statement comes to. -/
structure Step where
  result : Option Result
  records : List Record
  rest : Statements

structure Gathered where
  result : Result
  records : List Record
  rest : Lookahead

/-- The errors found since a draft was seen last, for the journal. -/
def Draft.warnings (seen : Draft) (errors : List LexError) : List Record :=
  (errors.drop seen.errors.length).map .lexError

namespace Statements

def ofFeed (options : Options) (feed : Feed) : Statements := { options, cards := { feed } }

/-- The statements of a text; the encoding of the options means nothing here. -/
def ofText (options : Options) (text : Text) : Statements := ofFeed options (.ofText text)

/-- The statements of a source in the encoding of the options. -/
def ofSource (options : Options) (source : Source) : Statements :=
  ofFeed options (.ofSource options.encoding source)

/-- The statements of a source that holds UTF-8, whatever the encoding of the options. -/
def ofUtf8Source (options : Options) (source : Source) : Statements :=
  ofFeed options (.ofSource .utf8 source)

/-- Joins continuation cards to the open statement until none follows, and closes it then. -/
def gather (options : Options) (assembly : Assembly) (cards : Lookahead) : Except Fault Gathered :=
  let pull := cards.takeRelevant options continues
  match _ : pull.item with
  | none => do
    let statement ← assembly.finish
    return {
      result := .ok statement
      records := pull.records ++ assembly.draft.warnings statement.errors ++
        [statement.closedRecord]
      rest := pull.rest }
  | some (.error error) =>
    .ok { result := .error error, records := pull.records, rest := pull.rest }
  | some (.ok card) => do
    let joined ← assembly.join options card
    let gathered ← gather options joined pull.rest
    return { gathered with
      records := pull.records ++ assembly.draft.warnings joined.draft.errors ++ gathered.records }
termination_by cards.size
decreasing_by exact Lookahead.size_takeRelevant_lt (by assumption)

/-- The next statement, or the error of the source in its place. -/
def next (statements : Statements) : Except Fault Step :=
  if statements.finished then
    .ok { result := none, records := [], rest := statements }
  else
    let pull := statements.cards.takeRelevant statements.options fun _ => true
    match pull.item with
    | none =>
      .ok {
        result := none
        records := pull.records
        rest := { statements with cards := pull.rest } }
    | some (.error error) =>
      .ok {
        result := some (.error error)
        records := pull.records
        rest := { statements with cards := pull.rest, finished := true } }
    | some (.ok first) => do
      let started ← Assembly.start first
      let gathered ← gather statements.options started pull.rest
      return {
        result := some gathered.result
        records := pull.records ++ started.draft.errors.map .lexError ++ gathered.records
        rest := { statements with
          cards := gathered.rest
          finished := gathered.result matches .error _ } }

theorem size_gather_le {options : Options} {assembly : Assembly} {cards : Lookahead}
    {gathered : Gathered} (done : gather options assembly cards = .ok gathered) :
    gathered.rest.size ≤ cards.size := by
  fun_induction gather options assembly cards generalizing gathered with
  | case1 =>
    simp only [bind, Except.bind, pure, Except.pure] at done
    split at done <;> cases done
    exact Lookahead.size_takeRelevant_le ..
  | case2 => cases done; exact Lookahead.size_takeRelevant_le ..
  | case3 =>
    rename_i ih
    simp only [bind, Except.bind, pure, Except.pure] at done
    split at done
    · cases done
    next joined _ =>
      split at done
      · cases done
      next further there =>
        cases done
        have smaller := ih joined there
        exact Nat.le_trans smaller (Lookahead.size_takeRelevant_le ..)

theorem size_next_lt {statements : Statements} {step : Step} {result : Result}
    (done : statements.next = .ok step) (given : step.result = some result) :
    step.rest.cards.size < statements.cards.size := by
  simp only [next] at done
  split at done
  · cases done; cases given
  · split at done
    · cases done; cases given
    next taken => cases done; exact Lookahead.size_takeRelevant_lt taken
    next taken =>
      simp only [bind, Except.bind, pure, Except.pure] at done
      split at done
      · cases done
      · split at done
        · cases done
        next there =>
          cases done
          exact Nat.lt_of_le_of_lt (size_gather_le there) (Lookahead.size_takeRelevant_lt taken)

def unread (statements : Statements) : Nat := statements.cards.feed.unread

end Statements

end CardDeck
