import CardDeck.Card
import CardDeck.Failure
import CardDeck.Text.Quoted

set_option autoImplicit false

namespace CardDeck

inductive Level where
  | trace
  | debug
  | warn
  | error
deriving DecidableEq, Repr

def Level.name : Level → Text
  | trace => "TRACE".toList
  | debug => "DEBUG".toList
  | warn => "WARN".toList
  | error => "ERROR".toList

structure Record where
  level : Level
  message : Text
deriving DecidableEq, Repr

namespace Record

/-- A card was read; the white space that ends its body is left out. -/
def card (card : Card) : Record :=
  ⟨.trace, "card ".toList ++ Decimal.text card.line ++ ": ".toList ++
    Quoted.text (Text.trimEnd card.body)⟩

def failure (error : SourceError) : Record := ⟨.error, error.message⟩

def lexError (error : LexError) : Record := ⟨.warn, error.message⟩

def closed (line cards tokens errors : Nat) : Record :=
  ⟨.debug, "statement at line ".toList ++ Decimal.text line ++ ": ".toList ++
    Decimal.text cards ++ " card(s), ".toList ++ Decimal.text tokens ++ " token(s), ".toList ++
    Decimal.text errors ++ " error(s)".toList⟩

end Record

end CardDeck
