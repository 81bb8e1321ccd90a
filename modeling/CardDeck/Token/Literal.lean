import CardDeck.Failure
import CardDeck.Token.Basic

/-!
Character literals, which may go on over the edge of a card.

A literal runs from a delimiter to the next one that is not the first of two in a row. A delimiter
in the last column may be the first of two, the second of which stands on the next card; until
that card is seen the literal stays open and is only closed at the edge.
-/

set_option autoImplicit false

namespace CardDeck

def isDelimiter (c : Char) : Bool := c == '\'' || c == '"'

/-- Number of characters up to and with the first delimiter that is not the first of two. -/
def closing? (delimiter : Char) : Text → Option Nat
  | [] => none
  | [c] => if c = delimiter then some 1 else none
  | c :: d :: rest =>
    if c = delimiter then
      if d = delimiter then (closing? delimiter rest).map (· + 2) else some 1
    else
      (closing? delimiter (d :: rest)).map (· + 1)

theorem closing?_bounds {delimiter : Char} {text : Text} {n : Nat}
    (closed : closing? delimiter text = some n) : 0 < n ∧ n ≤ text.length := by
  fun_induction closing? delimiter text generalizing n <;> simp_all
  case case2 => omega
  case case4 ih =>
    obtain ⟨m, inner, rfl⟩ := closed
    have := ih inner
    omega
  case case5 => omega
  case case6 ih =>
    obtain ⟨m, inner, rfl⟩ := closed
    have := ih inner
    omega

/-- A literal whose last delimiter is not known yet. -/
structure OpenLiteral where
  delimiter : Char
  text : Text
  position : Position
  /-- The text ends with a delimiter that closes it unless another one follows. -/
  closedAtEdge : Bool
deriving DecidableEq, Repr

/-- What comes of an open literal when the body of a further card is read. -/
inductive Resumed where
  /-- The literal is the token; it took `consumed` characters of the body. -/
  | closed (token : Token) (consumed : Nat)
  | stillOpen (literal : OpenLiteral)
deriving DecidableEq, Repr

namespace OpenLiteral

def token (literal : OpenLiteral) : Token := ⟨.character, literal.text, literal.position⟩

/-- The literal with more text; a closing length tells where a delimiter ends it, if one does. -/
def extend (literal : OpenLiteral) (body : Text) (closing : Option Nat) : Resumed :=
  match closing with
  | some n =>
    if n < body.length then
      .closed { literal with text := literal.text ++ body.take n }.token n
    else
      .stillOpen { literal with text := literal.text ++ body, closedAtEdge := true }
  | none => .stillOpen { literal with text := literal.text ++ body, closedAtEdge := false }

/--
Goes on with the body of the next card. If the literal is closed at the edge, a body that starts
with a delimiter reopens it, and any other body leaves it closed.
-/
def resume (literal : OpenLiteral) (body : Text) : Resumed :=
  if literal.closedAtEdge then
    if body.head? = some literal.delimiter then
      literal.extend body ((closing? literal.delimiter body.tail).map (· + 1))
    else
      .closed literal.token 0
  else
    literal.extend body (closing? literal.delimiter body)

/-- Ends the literal when no card follows. -/
def finish (literal : OpenLiteral) : Except LexError Token :=
  if literal.closedAtEdge then .ok literal.token
  else .error (.unterminatedLiteral literal.text literal.position)

/-- Goes on over one body after the other, as long as the literal is open; all that comes of it. -/
def resumeAll (literal : OpenLiteral) : List Text → List Resumed
  | [] => []
  | body :: bodies =>
    match literal.resume body with
    | .closed token consumed => [.closed token consumed]
    | .stillOpen further => .stillOpen further :: further.resumeAll bodies

end OpenLiteral

end CardDeck
