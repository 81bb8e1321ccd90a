import CardDeck.Feed.Operation
import CardDeck.Main
import CardDeck.Proofs.Card.Image
import CardDeck.Proofs.Command.Faithful
import CardDeck.Proofs.Command.Readable
import CardDeck.Proofs.Encoding.Extent
import CardDeck.Proofs.Feed.Decoded
import CardDeck.Proofs.Feed.Drawn
import CardDeck.Proofs.Feed.Operations
import CardDeck.Proofs.Feed.Returns
import CardDeck.Proofs.Literal.Parts
import CardDeck.Proofs.Statement.Ahead
import CardDeck.Proofs.Statement.Capitals
import CardDeck.Proofs.Statement.Columns
import CardDeck.Proofs.Statement.Drawing
import CardDeck.Proofs.Statement.Errors
import CardDeck.Proofs.Statement.Failing
import CardDeck.Proofs.Statement.Interrupted
import CardDeck.Proofs.Statement.Joined
import CardDeck.Proofs.Statement.Ledger
import CardDeck.Proofs.Statement.Limit
import CardDeck.Proofs.Statement.Local
import CardDeck.Proofs.Statement.Origins
import CardDeck.Proofs.Statement.Partition
import CardDeck.Proofs.Statement.Printed
import CardDeck.Proofs.Statement.Punched
import CardDeck.Proofs.Statement.Relevant
import CardDeck.Proofs.Statement.Safety
import CardDeck.Proofs.Statement.Strict
import CardDeck.Proofs.Statement.Twins
import CardDeck.Proofs.Token.Cover
import CardDeck.Proofs.Token.Scanned
