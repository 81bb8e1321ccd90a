import CardDeck.Command

set_option autoImplicit false

namespace CardDeck

def reasonOf : IO.Error → String
  | .noFileOrDirectory _ code _ => s!"No such file or directory (os error {code})"
  | .permissionDenied _ code _ => s!"Permission denied (os error {code})"
  | .inappropriateType _ code _ => s!"Is a directory (os error {code})"
  | error => toString error

/-- Reads a stream to its end, or to the error that ends it. -/
partial def readSource (stream : IO.FS.Stream) (read : Array UInt8) : IO Source := do
  match ← (stream.read 65536).toBaseIO with
  | .ok chunk =>
    if chunk.isEmpty then return { bytes := read.toList }
    else readSource stream (read ++ chunk.data)
  | .error error => return { bytes := read.toList, failure := some (reasonOf error).toList }

/-- Opens the deck of the name; a hyphen stands for the standard input. -/
def openDeck (deck : Text) : IO (Except Text Source) := do
  if deck = ['-'] then
    return .ok (← readSource (← IO.getStdin) #[])
  else
    match ← (IO.FS.Handle.mk (String.ofList deck) .read).toBaseIO with
    | .ok handle => return .ok (← readSource (IO.FS.Stream.ofHandle handle) #[])
    | .error error => return .error (reasonOf error).toList

def usage : String :=
  "Usage: card-dump [OPTIONS] <DECK>\n\n" ++
  "Options:\n" ++
  "  -e, --encoding <ENCODING>        utf8, ascii or latin1 [default: utf8]\n" ++
  "      --cards                      print cards instead of statements\n" ++
  "      --strict                     exit with status 1 if a statement has a lex error\n" ++
  "      --skip-blank                 drop blank cards\n" ++
  "      --comments                   drop cards with C, c or * in column 1\n" ++
  "      --max-continuations <LIMIT>  most continuation cards of a statement\n" ++
  "  -h, --help                       print this text\n"

end CardDeck

open CardDeck in
def main (arguments : List String) : IO UInt32 := do
  match Request.ofArguments (arguments.map String.toList) with
  | .error .help =>
    IO.print usage
    return 0
  | .error (.usage error) =>
    IO.eprint s!"error: {String.ofList error.message}\n\n{usage}"
    return 2
  | .ok request =>
    match request.run (← openDeck request.deck) with
    | .ok outcome =>
      IO.print (String.ofList outcome.output)
      IO.eprint (String.ofList (outcome.standardError (.ofLevels [.error])))
      return outcome.status.toUInt32
    | .error fault =>
      IO.eprintln (String.ofList fault.message)
      return 101
