import CardDeck.Proofs.Statement.Local
import CardDeck.Proofs.Statement.Safety
import CardDeck.Proofs.Statement.Twins

set_option autoImplicit false

namespace CardDeck

namespace Options

def withEncoding (options : Options) (encoding : Encoding) : Options := { options with encoding }

theorem encoding_carries (options : Options) (encoding : Encoding) :
    options.Carries (options.withEncoding encoding) Eq Eq Eq := by
  refine ⟨.of_ignores rfl, fun _ _ same _ _ => same, ?_⟩
  rintro first _ continuations followers rfl - same
  obtain rfl : continuations = followers := List.forall₂_eq_eq_eq ▸ same
  rfl

end Options

/-- Once cards are read, the encoding of the options has no influence. -/
theorem Statements.run_withEncoding {options : Options}
    (counted : options.maxContinuations ≠ some topLimit) (encoding : Encoding) {feed : Feed}
    {cards : List Card} (items : feed.items = cards.map .ok) (lines : Ascending cards) :
    (ofFeed (options.withEncoding encoding) feed).run = (ofFeed options feed).run := by
  have alike : List.Forall₂ Eq cards cards := List.forall₂_refl cards
  obtain ⟨statements, others, run, run', same⟩ :=
    run_twins (options.encoding_carries encoding) counted counted items items lines alike
      (fun _ _ found found' => Option.some.inj (found.symm.trans found'))
  obtain rfl : statements = others := List.forall₂_eq_eq_eq ▸ same
  rw [run, run']

namespace Origin

/-- The cards of the origin, where bytes that are not decoded yet are in the encoding. -/
def feed (encoding : Encoding) : Origin → Feed
  | text deck => .ofText deck
  | bytes source => .ofSource encoding source
  | decoded source => .ofSource .utf8 source

theorem statements_eq_ofFeed (options : Options) (origin : Origin) :
    origin.statements options = Statements.ofFeed options (origin.feed options.encoding) := by
  cases origin <;> rfl

/--
The origin holds the text: as it is, or as the bytes that encode it in UTF-8. If these are taken for
bytes in another encoding, it holds the text as long as every character has seven bits.
-/
inductive Holds (encoding : Encoding) (deck : Text) : Origin → Prop where
  | text : Holds encoding deck (.text deck)
  | decoded : Holds encoding deck (.decoded { bytes := Encoding.utf8.encode deck })
  | bytes (common : encoding = .utf8 ∨ ∀ c ∈ deck, IsAscii c) :
    Holds encoding deck (.bytes { bytes := Encoding.utf8.encode deck })

theorem Holds.items_feed {encoding : Encoding} {deck : Text} {origin : Origin}
    (holds : origin.Holds encoding deck) :
    (origin.feed encoding).items = (Card.ofText deck).map .ok := by
  cases holds with
  | text | decoded => exact Feed.items_ofText deck
  | bytes common =>
    rcases common with rfl | ascii
    · exact Feed.items_ofText deck
    · have decoded : encoding.decode (Encoding.utf8.encode deck) = .ok deck := by
        rw [Encoding.encode_of_ascii .utf8 encoding ascii]
        exact Encoding.decode_encode fun c member => encoding.has_of_ascii (ascii c member)
      exact Reader.itemsFrom_of_decode_ok decoded 0

/--
All origins of a text give the same cards, those of its lines, and the same statements; there is no
error of the source among them.
-/
theorem run_of_holds {options : Options} (counted : options.maxContinuations ≠ some topLimit)
    (deck : Text) :
    ∃ statements : List Statement, ∀ encoding origin, Holds encoding deck origin →
      (origin.feed encoding).items = (Card.ofText deck).map .ok ∧
      (origin.statements (options.withEncoding encoding)).run =
        { results := statements.map .ok } := by
  obtain ⟨statements, run⟩ := Statements.runItems_ofText counted deck
  refine ⟨statements, ?_⟩
  intro encoding origin holds
  have items := holds.items_feed
  refine ⟨items, ?_⟩
  have plain : (Statements.ofFeed options (origin.feed encoding)).run =
      Statements.runItems options ((Card.ofText deck).map .ok) := by
    rw [← items]
    exact Statements.run_eq_runItems rfl
  rw [statements_eq_ofFeed]
  exact (Statements.run_withEncoding counted encoding items (Card.ofText_ascending deck)).trans
    (plain.trans run)

def wideDeck : Text := "      A = 'é€😀'\n     1B\r\n".toList

/-- A text of seven bits, the last line of which is not ended. -/
def narrowDeck : Text := "      A = 1\n\n     1 + '2".toList

theorem run_of_holds_wide :
    (∃ statements : List Statement,
      (Statements.ofText { encoding := .latin1 } wideDeck).run = { results := statements.map .ok } ∧
      (Statements.ofUtf8Source { encoding := .ascii }
        { bytes := Encoding.utf8.encode wideDeck }).run = { results := statements.map .ok } ∧
      (Statements.ofSource {} { bytes := Encoding.utf8.encode wideDeck }).run =
        { results := statements.map .ok }) ∧
    ∃ statements : List Statement,
      (Statements.ofText {} narrowDeck).run = { results := statements.map .ok } ∧
      (Statements.ofSource { encoding := .latin1 }
        { bytes := Encoding.utf8.encode narrowDeck }).run = { results := statements.map .ok } ∧
      (Statements.ofSource { encoding := .ascii }
        { bytes := Encoding.utf8.encode narrowDeck }).run = { results := statements.map .ok } := by
  have counted : ({} : Options).maxContinuations ≠ some topLimit := by decide
  constructor
  · obtain ⟨statements, same⟩ := run_of_holds counted wideDeck
    exact ⟨statements, (same .latin1 _ .text).2, (same .ascii _ .decoded).2,
      (same .utf8 _ (.bytes (Or.inl rfl))).2⟩
  · obtain ⟨statements, same⟩ := run_of_holds counted narrowDeck
    have each : (narrowDeck.all fun c => IsAscii c) = true := by decide
    have ascii : ∀ c ∈ narrowDeck, IsAscii c := fun c member =>
      of_decide_eq_true (List.all_eq_true.mp each c member)
    exact ⟨statements, (same .utf8 _ .text).2, (same .latin1 _ (.bytes (Or.inr ascii))).2,
      (same .ascii _ (.bytes (Or.inr ascii))).2⟩

end Origin

end CardDeck
