import CardDeck.Encoding

set_option autoImplicit false

namespace CardDeck

def cardWidth : Nat := 80

def bodyColumn : Nat := 7

/-- First column of the trailer, where the end of a statement is placed too. -/
def trailerColumn : Nat := 73

def bodyWidth : Nat := trailerColumn - bodyColumn

structure Card where
  line : Nat
  /-- Columns 1 to 5 without the white space around them. -/
  label : Text
  /-- Column 6. -/
  marker : Char
  /-- Columns 7 to 72. -/
  body : Text
  /-- Columns 73 to 80 without the white space that ends them. -/
  trailer : Text
  firstColumn : Char
  body_length : body.length = bodyWidth
deriving DecidableEq, Repr

namespace Card

/-- The card punched with the text of a line; columns that the text does not reach are blank. -/
def ofLine (line : Nat) (text : Text) : Card :=
  let columns := text.dropFinalReturn.take cardWidth
  { line
    label := Text.trim (columns.take 5)
    marker := columns.getD 5 ' '
    body := ((columns.drop 6).take bodyWidth).rightpad bodyWidth ' '
    trailer := Text.trimEnd (columns.drop 72)
    firstColumn := columns.headD ' '
    body_length := by simp only [List.rightpad, List.length_append, List.length_replicate,
      List.length_take]; omega }

@[simp] theorem ofLine_line (line : Nat) (text : Text) : (ofLine line text).line = line := rfl

/-- A card goes on with the statement before it unless its marker is white or a zero. -/
def isContinuation (card : Card) : Bool := !(isWhite card.marker || card.marker == '0')

def isBlank (card : Card) : Bool :=
  card.label.isEmpty && !card.isContinuation && (Text.trim card.body).isEmpty

def isComment (card : Card) : Bool :=
  card.firstColumn == 'C' || card.firstColumn == 'c' || card.firstColumn == '*'

end Card

structure Options where
  skipBlank : Bool := false
  /-- Take cards with a C, a c or an asterisk in the first column for comments. -/
  comments : Bool := false
  maxContinuations : Option UInt64 := none
  encoding : Encoding := .utf8
deriving DecidableEq, Repr

namespace Options

/-- An ignored card is left out of every statement. -/
def ignores (options : Options) (card : Card) : Bool :=
  (options.comments && card.isComment) || (options.skipBlank && card.isBlank)

theorem ignores_eq_false (options : Options) (card : Card) (comments : options.comments = false)
    (blanks : options.skipBlank = false) : options.ignores card = false := by
  simp [ignores, comments, blanks]

end Options

end CardDeck
