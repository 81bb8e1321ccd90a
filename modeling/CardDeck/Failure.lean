import CardDeck.Encoding
import CardDeck.Position

set_option autoImplicit false

namespace CardDeck

inductive SourceError where
  | read (line : Nat) (reason : Text)
  /-- The bytes of the line encode no text from the offset on. -/
  | decode (line : Nat) (encoding : Encoding) (offset : Nat)
deriving DecidableEq, Repr

namespace SourceError

def line : SourceError → Nat
  | read line _ => line
  | decode line _ _ => line

def message : SourceError → Text
  | read line reason =>
    "read failed at line ".toList ++ Decimal.text line ++ ": ".toList ++ reason
  | decode line encoding offset =>
    "invalid ".toList ++ encoding.name ++ " data at line ".toList ++ Decimal.text line ++
      ", byte ".toList ++ Decimal.text offset

end SourceError

inductive LexError where
  | strayCharacter (ch : Char) (position : Position)
  | unterminatedLiteral (lexeme : Text) (position : Position)
  /-- The statement that starts on the line has more continuation cards than the limit. -/
  | tooManyContinuations (line : Nat) (limit : UInt64)
deriving DecidableEq, Repr

namespace LexError

/-- A statement as a whole is blamed at the first column of its first line. -/
def position : LexError → Position
  | strayCharacter _ position => position
  | unterminatedLiteral _ position => position
  | tooManyContinuations line _ => ⟨line, 1⟩

def place (position : Position) : Text :=
  " at line ".toList ++ Decimal.text position.line ++ ", column ".toList ++
    Decimal.text position.column

def message : LexError → Text
  | strayCharacter ch position => "unexpected character '".toList ++ [ch, '\''] ++ place position
  | unterminatedLiteral _ position => "unterminated literal".toList ++ place position
  | tooManyContinuations line limit =>
    "statement at line ".toList ++ Decimal.text line ++ " has more than ".toList ++
      Decimal.text limit.toNat ++ " continuation cards".toList

end LexError

inductive Fault where
  /-- A token was added that does not stand after the token before it. -/
  | tokenOrder
  /-- One more than the limit of continuation cards is no number of 64 bits. -/
  | limitOverflow
deriving DecidableEq, Repr

namespace Fault

def message : Fault → Text
  | tokenOrder => "tokens must be added in source order".toList
  | limitOverflow => "attempt to add with overflow".toList

variable {α β : Type}

@[simp] theorem pure_eq_ok (value : α) : (pure value : Except Fault α) = .ok value := rfl

@[simp] theorem ok_bind (value : α) (next : α → Except Fault β) :
    (Except.ok value >>= next) = next value := rfl

@[simp] theorem error_bind (fault : Fault) (next : α → Except Fault β) :
    (Except.error fault >>= next) = .error fault := rfl

theorem bind_eq_ok {first : Except Fault α} {next : α → Except Fault β} {result : β} :
    (first >>= next) = .ok result ↔ ∃ value, first = .ok value ∧ next value = .ok result := by
  cases first with
  | error fault => simp
  | ok value => simp

end Fault

inductive Failure where
  | source (error : SourceError)
  | lex (error : LexError)
deriving DecidableEq, Repr

def Failure.message : Failure → Text
  | source error => error.message
  | lex error => error.message

end CardDeck
