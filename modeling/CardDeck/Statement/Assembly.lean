import CardDeck.Card
import CardDeck.Statement.Basic
import CardDeck.Token.Entry

set_option autoImplicit false

namespace CardDeck

/-- How the assembly stands at the edge of a card. -/
inductive Progress where
  | ready
  | inside (literal : OpenLiteral)
  | stopped
deriving DecidableEq, Repr

structure Assembly where
  draft : Draft
  progress : Progress
deriving DecidableEq, Repr

namespace Assembly

/-- Adds the entries of a card to the draft, up to the first character that starts no token. -/
def enter (draft : Draft) : List Entry → Except Fault Assembly
  | [] => .ok ⟨draft, .ready⟩
  | .token token :: entries => do enter (← draft.addToken token) entries
  | .unclosed literal :: _ => .ok ⟨draft, .inside literal⟩
  | .stray ch position :: _ => .ok ⟨draft.addError (.strayCharacter ch position), .stopped⟩

def start (first : Card) : Except Fault Assembly := enter { first } (first.entriesFrom 0)

/-- A continuation card is joined; an open literal goes on first. -/
def join (options : Options) (assembly : Assembly) (card : Card) : Except Fault Assembly := do
  let draft ← assembly.draft.join options.maxContinuations card
  match assembly.progress with
  | .ready => enter draft (card.entriesFrom 0)
  | .inside literal =>
    match literal.resume card.body with
    | .closed token consumed => enter (← draft.addToken token) (card.entriesFrom consumed)
    | .stillOpen further => .ok ⟨draft, .inside further⟩
  | .stopped => .ok ⟨draft, .stopped⟩

/-- No card follows, so that an open literal must end. -/
def finish (assembly : Assembly) : Except Fault Statement :=
  match assembly.progress with
  | .inside literal =>
    match literal.finish with
    | .ok token => do return (← assembly.draft.addToken token).close
    | .error error => .ok (assembly.draft.addError error).close
  | .ready | .stopped => .ok assembly.draft.close

def joinAll (options : Options) (assembly : Assembly) : List Card → Except Fault Assembly
  | [] => .ok assembly
  | card :: cards => do joinAll options (← assembly.join options card) cards

end Assembly

/-- The statement of a first card and the cards that continue it. -/
def Statement.ofCards (options : Options) (first : Card) (continuations : List Card) :
    Except Fault Statement := do
  let started ← Assembly.start first
  let joined ← started.joinAll options continuations
  joined.finish

end CardDeck
