import CardDeck.Journal
import CardDeck.Token.Basic

set_option autoImplicit false

namespace CardDeck

structure Statement where
  first : Card
  continuations : List Card
  /-- The tokens in source order; the last one is the end of the statement. -/
  tokens : List Token
  errors : List LexError
deriving DecidableEq, Repr

namespace Statement

def cards (statement : Statement) : List Card := statement.first :: statement.continuations

def line (statement : Statement) : Nat := statement.first.line

def lastLine (statement : Statement) : Nat :=
  (statement.continuations.getLastD statement.first).line

/-- The label of the first card; those of the others mean nothing. -/
def label (statement : Statement) : Text := statement.first.label

/-- A statement is valid if it has no errors; otherwise its tokens need not be all there are. -/
def isValid (statement : Statement) : Bool := statement.errors.isEmpty

/-- The statement, or its first error. -/
def strict (statement : Statement) : Except LexError Statement :=
  match statement.errors with
  | [] => .ok statement
  | error :: _ => .error error

/-- What the journal says when the statement is closed. -/
def closedRecord (statement : Statement) : Record :=
  .closed statement.line statement.cards.length statement.tokens.length statement.errors.length

end Statement

structure Draft where
  first : Card
  continuations : List Card := []
  tokens : List Token := []
  errors : List LexError := []
deriving DecidableEq, Repr

namespace Draft

/-- The card that was added last. -/
def lastCard (draft : Draft) : Card := draft.continuations.getLastD draft.first

def line (draft : Draft) : Nat := draft.first.line

def continuationCount (draft : Draft) : Nat := draft.continuations.length

def addCard (draft : Draft) (card : Card) : Draft :=
  { draft with continuations := draft.continuations ++ [card] }

@[simp] theorem lastCard_addCard (draft : Draft) (card : Card) :
    (draft.addCard card).lastCard = card := by
  simp [lastCard, addCard]

@[simp] theorem continuationCount_addCard (draft : Draft) (card : Card) :
    (draft.addCard card).continuationCount = draft.continuationCount + 1 := by
  simp [continuationCount, addCard]

/-- A token must stand after the tokens that are there. -/
def addToken (draft : Draft) (token : Token) : Except Fault Draft :=
  if draft.tokens.getLast?.all fun last => last.position < token.position then
    .ok { draft with tokens := draft.tokens ++ [token] }
  else
    .error .tokenOrder

def addError (draft : Draft) (error : LexError) : Draft :=
  { draft with errors := draft.errors ++ [error] }

/--
Adds a continuation card. The first card beyond the limit adds an error, so that a statement has
at most one error of this kind.
-/
def join (limit : Option UInt64) (draft : Draft) (card : Card) : Except Fault Draft :=
  let joined := draft.addCard card
  match limit with
  | none => .ok joined
  | some limit =>
    if limit.toNat + 1 = UInt64.size then
      .error .limitOverflow
    else if joined.continuationCount = limit.toNat + 1 then
      .ok (joined.addError (.tooManyContinuations joined.line limit))
    else
      .ok joined

def endPosition (draft : Draft) : Position := ⟨draft.lastCard.line, trailerColumn⟩

/-- The statement, with its end placed after the body of the last card. -/
def close (draft : Draft) : Statement :=
  { first := draft.first
    continuations := draft.continuations
    tokens := draft.tokens ++ [.statementEnd draft.endPosition]
    errors := draft.errors }

end Draft

end CardDeck
