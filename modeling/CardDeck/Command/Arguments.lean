import CardDeck.Card
import CardDeck.Text.Basic

set_option autoImplicit false

namespace CardDeck

structure Request where
  /-- The name of the deck; a hyphen stands for the standard input. -/
  deck : Text
  options : Options
  /-- Dump cards instead of statements. -/
  cards : Bool
  /-- Exit with a failure if a statement is invalid. -/
  strict : Bool
deriving DecidableEq, Repr

inductive Switch where
  | cards
  | strict
  | skipBlank
  | comments
deriving DecidableEq, Repr

inductive Setting where
  | encoding
  | maxContinuations
deriving DecidableEq, Repr

inductive UsageError where
  | unknownOption (argument : Text)
  | extraArgument (argument : Text)
  | missingDeck
  | missingValue (setting : Setting)
  | invalidValue (setting : Setting) (value : Text)
  | unneededValue (argument : Text)
  | repeated (argument : Text)
deriving DecidableEq, Repr

inductive Refusal where
  | help
  | usage (error : UsageError)
deriving DecidableEq, Repr

namespace Switch

def name : Switch → Text
  | cards => "cards".toList
  | strict => "strict".toList
  | skipBlank => "skip-blank".toList
  | comments => "comments".toList

def all : List Switch := [cards, strict, skipBlank, comments]

end Switch

namespace Setting

def name : Setting → Text
  | encoding => "encoding".toList
  | maxContinuations => "max-continuations".toList

def all : List Setting := [encoding, maxContinuations]

end Setting

def UsageError.message : UsageError → Text
  | unknownOption argument => "unknown option '".toList ++ argument ++ ['\'']
  | extraArgument argument => "unexpected argument '".toList ++ argument ++ ['\'']
  | missingDeck => "no deck is named".toList
  | missingValue setting => "option '--".toList ++ setting.name ++ "' needs a value".toList
  | invalidValue setting value =>
    "invalid value '".toList ++ value ++ "' for option '--".toList ++ setting.name ++ ['\'']
  | unneededValue argument => "no value is allowed in '".toList ++ argument ++ ['\'']
  | repeated argument => ['\''] ++ argument ++ "' is given more than once".toList

inductive Argument where
  | plain (text : Text)
  /-- Two hyphens: no option comes after them. -/
  | endOfOptions
  | help
  | switch (switch : Switch)
  /-- An option with its value, if that stands in the same argument. -/
  | setting (setting : Setting) (value : Option Text)
  | wrong (error : UsageError)
deriving DecidableEq, Repr

namespace Argument

/-- The argument `--name` or `--name=value`. -/
def ofLong (name : Text) (value : Option Text) (argument : Text) : Argument :=
  match Switch.all.find? (·.name == name), Setting.all.find? (·.name == name) with
  | some found, _ => if value.isSome then .wrong (.unneededValue argument) else .switch found
  | none, some found => .setting found value
  | none, none =>
    if name = "help".toList then
      if value.isSome then .wrong (.unneededValue argument) else .help
    else
      .wrong (.unknownOption argument)

/-- The short option of the letter; what follows in the same argument is its value. -/
def ofShort (letter : Char) (rest : Text) (argument : Text) : Argument :=
  if letter = 'h' then
    .help
  else if letter = 'e' then
    match rest with
    | [] => .setting .encoding none
    | '=' :: value => .setting .encoding (some value)
    | value => .setting .encoding (some value)
  else
    .wrong (.unknownOption argument)

def ofText (argument : Text) : Argument :=
  match argument with
  | ['-', '-'] => .endOfOptions
  | '-' :: '-' :: long =>
    ofLong (long.takeWhile (· != '=')) (long.dropWhile (· != '=')).tail? argument
  | '-' :: letter :: rest => ofShort letter rest argument
  | text => .plain text

end Argument

structure Given where
  deck : Option Text := none
  switches : List Switch := []
  encoding : Option Encoding := none
  maxContinuations : Option UInt64 := none
deriving DecidableEq, Repr

namespace Given

def addDeck (given : Given) (deck : Text) : Except Refusal Given :=
  if given.deck.isSome then .error (.usage (.extraArgument deck))
  else .ok { given with deck := some deck }

def addSwitch (given : Given) (switch : Switch) : Except Refusal Given :=
  if switch ∈ given.switches then .error (.usage (.repeated switch.name))
  else .ok { given with switches := switch :: given.switches }

def addSetting (given : Given) (setting : Setting) (value : Text) : Except Refusal Given :=
  match setting with
  | .encoding =>
    if given.encoding.isSome then .error (.usage (.repeated setting.name))
    else
      match Encoding.ofName value with
      | .ok encoding => .ok { given with encoding := some encoding }
      | .error _ => .error (.usage (.invalidValue setting value))
  | .maxContinuations =>
    if given.maxContinuations.isSome then .error (.usage (.repeated setting.name))
    else
      match Decimal.read64? value with
      | some limit => .ok { given with maxContinuations := some limit }
      | none => .error (.usage (.invalidValue setting value))

def request (given : Given) : Except Refusal Request :=
  match given.deck with
  | none => .error (.usage .missingDeck)
  | some deck =>
    .ok {
      deck
      options := {
        skipBlank := Switch.skipBlank ∈ given.switches
        comments := Switch.comments ∈ given.switches
        maxContinuations := given.maxContinuations
        encoding := given.encoding.getD .utf8 }
      cards := Switch.cards ∈ given.switches
      strict := Switch.strict ∈ given.switches }

def addDecks (given : Given) : List Text → Except Refusal Given
  | [] => .ok given
  | deck :: decks => do addDecks (← given.addDeck deck) decks

/-- Reads arguments; an option without a value takes the next argument, which must be plain. -/
def addArguments (given : Given) : List Text → Except Refusal Given
  | [] => .ok given
  | argument :: arguments =>
    match Argument.ofText argument with
    | .plain deck => do addArguments (← given.addDeck deck) arguments
    | .endOfOptions => given.addDecks arguments
    | .help => .error .help
    | .switch switch => do addArguments (← given.addSwitch switch) arguments
    | .setting setting (some value) => do addArguments (← given.addSetting setting value) arguments
    | .setting setting none =>
      match arguments with
      | [] => .error (.usage (.missingValue setting))
      | value :: arguments =>
        match Argument.ofText value with
        | .plain value => do addArguments (← given.addSetting setting value) arguments
        | _ => .error (.usage (.missingValue setting))
    | .wrong error => .error (.usage error)

end Given

def Request.ofArguments (arguments : List Text) : Except Refusal Request := do
  (← Given.addArguments {} arguments).request

end CardDeck
