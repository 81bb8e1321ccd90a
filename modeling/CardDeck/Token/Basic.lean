import CardDeck.Position

set_option autoImplicit false

namespace CardDeck

inductive TokenKind where
  /-- A letter, then letters, digits or underscores. -/
  | identifier
  | integer
  /-- Digits with a point, an exponent or both. -/
  | real
  /-- Text between two delimiters, which belong to the token. -/
  | character
  /-- Letters between two points. -/
  | dotted
  | operator
  | statementEnd
deriving DecidableEq, Repr

namespace TokenKind

def name : TokenKind → Text
  | identifier => "IDENT".toList
  | integer => "INT".toList
  | real => "REAL".toList
  | character => "CHAR".toList
  | dotted => "DOTTED".toList
  | operator => "OP".toList
  | statementEnd => "END".toList

def all : List TokenKind :=
  [identifier, integer, real, character, dotted, operator, statementEnd]

def ofName? (name : Text) : Option TokenKind := all.find? fun kind => kind.name == name

@[simp] theorem ofName?_name (kind : TokenKind) : ofName? kind.name = some kind := by
  cases kind <;> decide

theorem name_inj {kind other : TokenKind} : kind.name = other.name ↔ kind = other := by
  refine ⟨fun same => ?_, fun same => same ▸ rfl⟩
  have found := ofName?_name kind
  rw [same, ofName?_name] at found
  exact (Option.some.inj found).symm

end TokenKind

structure Token where
  kind : TokenKind
  lexeme : Text
  position : Position
deriving DecidableEq, Repr

namespace Token

/-- The mark that closes a statement has no text of its own. -/
def statementEnd (position : Position) : Token := ⟨.statementEnd, [], position⟩

def isStatementEnd (token : Token) : Bool := token.kind == .statementEnd

/-- The kind, the lexeme and the place after an at sign; an end has no lexeme to show. -/
def text (token : Token) : Text :=
  if token.isStatementEnd then
    "<end> @".toList ++ token.position.text
  else
    token.kind.name ++ ' ' :: token.lexeme ++ " @".toList ++ token.position.text

end Token

end CardDeck
