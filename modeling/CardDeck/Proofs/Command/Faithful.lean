import CardDeck.Proofs.Card.OneLine
import CardDeck.Proofs.Command.Written
import CardDeck.Proofs.Statement.Failing

set_option autoImplicit false

namespace CardDeck

namespace Request

/-- A statement with too many cards, one that is valid, and one that a byte breaks off. -/
def brokenDeck : Source :=
  { bytes := Encoding.utf8.encode
      "      A = 1\n     1+ 2\n      B = 3\n      C = 4\n     1\u00E9\n".toList }

end Request

end CardDeck
