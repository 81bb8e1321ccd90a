import CardDeck.Command.Arguments
import CardDeck.Statement.Run

/-!
The command: what it writes for a request, and the status with which it exits.

The logger is not part of it. The command hands over its records as they are made, all of them
before it says itself how the reading ended, and the environment decides which ones are shown.
-/

set_option autoImplicit false

namespace CardDeck

namespace Card

/-- The fields of a card on one line, the line number and the label at a width of five. -/
def dump (card : Card) : Text :=
  (Decimal.text card.line).leftpad 5 ' ' ++ " |".toList ++ card.label.rightpad 5 ' ' ++
    ['|', card.marker, '|'] ++ Text.trimEnd card.body ++ ['|'] ++ card.trailer ++ ['\n']

end Card

namespace Statement

def heading (statement : Statement) : Text :=
  "STATEMENT lines ".toList ++ Decimal.text statement.line ++ ['-'] ++
    Decimal.text statement.lastLine ++
    (if statement.label = [] then [] else " label ".toList ++ statement.label) ++ ['\n']

def dump (statement : Statement) : Text :=
  statement.heading ++
    statement.tokens.flatMap (fun token => "  ".toList ++ token.text ++ ['\n']) ++
    statement.errors.flatMap (fun error => "  error: ".toList ++ error.message ++ ['\n'])

end Statement

structure Outcome where
  status : Nat
  output : Text
  /-- The records that the logger is given. -/
  records : List Record
  /-- What the command itself writes on the standard error, behind all records. -/
  errors : Text
deriving DecidableEq, Repr

/-- What writes the records that it shows on the standard error, and nothing if it shows none. -/
structure Logger where
  shows : Record → Bool
  lines : List Record → Text
  lines_nil : lines [] = []

namespace Logger

def text (logger : Logger) (records : List Record) : Text :=
  logger.lines (records.filter logger.shows)

/-- Shows the records of some levels, each on a line. -/
def ofLevels (levels : List Level) : Logger where
  shows record := levels.contains record.level
  lines records := records.flatMap fun record =>
    ['['] ++ record.level.name ++ "] ".toList ++ record.message ++ ['\n']
  lines_nil := rfl

end Logger

def Outcome.standardError (logger : Logger) (outcome : Outcome) : Text :=
  logger.text outcome.records ++ outcome.errors

def untilError {ε α : Type} : List (Except ε α) → List α × Option ε
  | [] => ([], none)
  | .error error :: _ => ([], some error)
  | .ok value :: rest => (value :: (untilError rest).1, (untilError rest).2)

namespace Request

/-- An error of the source counts for more than the errors of statements. -/
def conclude (output : Text) (records : List Record) (error : Option SourceError) (invalid : Nat) :
    Outcome :=
  match error with
  | some error => ⟨1, output, records, "Error: ".toList ++ error.message ++ ['\n']⟩
  | none =>
    if invalid = 0 then
      ⟨0, output, records, []⟩
    else
      ⟨1, output, records, Decimal.text invalid ++ " statement(s) with lex errors\n".toList⟩

/-- Dumps the cards up to the first error of the source. -/
def dumpCards (request : Request) (source : Source) : Outcome :=
  let feed := Feed.ofSource request.options.encoding source
  let (cards, error) := untilError feed.items
  conclude (cards.flatMap Card.dump) (feed.items.flatMap feed.records) error 0

/-- Dumps the statements up to the first error of the source. -/
def dumpStatements (request : Request) (source : Source) : Except Fault Outcome :=
  let statements := Statements.ofSource request.options source
  match statements.run.fault with
  | some fault => .error fault
  | none =>
    let (written, error) := untilError statements.run.results
    let invalid := written.countP fun statement => !statement.isValid
    .ok (conclude (written.flatMap Statement.dump) statements.journal error
      (if request.strict then invalid else 0))

def run (request : Request) (deck : Except Text Source) : Except Fault Outcome :=
  match deck with
  | .error reason =>
    let errors :=
      "Error reading deck '".toList ++ request.deck ++ "': ".toList ++ reason ++ ['\n']
    .ok ⟨1, [], [], errors⟩
  | .ok source =>
    if request.cards then .ok (request.dumpCards source) else request.dumpStatements source

end Request

end CardDeck
