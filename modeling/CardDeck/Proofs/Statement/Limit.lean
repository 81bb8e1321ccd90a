import CardDeck.Proofs.Statement.Twins

set_option autoImplicit false

namespace CardDeck

/-- Reading the joined text comes to errors of scanning only. -/
theorem Joined.isScanning_of_lexFrom {cards : List Card} {index : Nat} {rest : Text}
    {error : LexError} (found : (lexFrom cards index rest).error = some error) :
    error.isScanning = true := by
  fun_induction lexFrom cards index rest with
  | case1 index => cases found
  | case2 index c rest white ih => exact ih found
  | case3 index c rest plain delimiter n closed ih => exact ih found
  | case4 index c rest plain delimiter opened =>
    cases found
    rfl
  | case5 index c rest plain other kind length lexeme ih => exact ih found
  | case6 index c rest plain other none =>
    cases found
    rfl

/--
The same statement without a limit and with one. The error of the limit is there if there are more
continuations than it allows. It stands behind the error of scanning, unless a literal is
unterminated, or a stray character is on a card that has more than so many cards before it.
-/
structure Statement.Limited (limit : UInt64) (plain limited : Statement) : Prop where
  cards : limited.cards = plain.cards
  tokens : limited.tokens = plain.tokens
  scanning : plain.errors.length ≤ 1 ∧ ∀ error ∈ plain.errors, error.isScanning = true
  errors : limited.errors =
    if plain.continuations.length ≤ limit.toNat then plain.errors
    else if plain.errors.any (LexError.isLate (plain.cards.drop (limit.toNat + 1))) then
      .tooManyContinuations plain.line limit :: plain.errors
    else plain.errors ++ [.tooManyContinuations plain.line limit]

theorem Statement.limited_ofJoined (limit : UInt64) (first : Card) (continuations : List Card) :
    Limited limit (ofJoined none first continuations)
      (ofJoined (some limit) first continuations) := by
  have plain : (ofJoined none first continuations).errors =
      (Joined.lex (first :: continuations)).error.toList := rfl
  refine ⟨rfl, rfl, ⟨?_, ?_⟩, ?_⟩
  · rw [plain]
    exact Option.length_toList_le
  · rw [plain]
    intro error member
    exact Joined.isScanning_of_lexFrom (Option.mem_toList.mp member)
  · rfl

namespace Options

def withLimit (options : Options) (limit : Option UInt64) : Options :=
  { options with maxContinuations := limit }

theorem limit_carries (options : Options) (limit : UInt64) :
    (options.withLimit none).Carries (options.withLimit (some limit)) Eq Eq
      (Statement.Limited limit) := by
  refine ⟨.of_ignores rfl, fun _ _ same _ _ => same, ?_⟩
  rintro first _ continuations followers rfl - same
  obtain rfl : continuations = followers := List.forall₂_eq_eq_eq ▸ same
  exact Statement.limited_ofJoined limit first continuations

end Options

namespace Statements

/--
With a limit and without one a feed gives the same statements, apart from the error of the limit in
those that have more continuations than it allows.
-/
theorem run_limited (options : Options) {limit : UInt64} (counted : limit ≠ topLimit) {feed : Feed}
    {cards : List Card} (items : feed.items = cards.map .ok) (lines : Ascending cards) :
    ∃ plain limited : List Statement,
      (ofFeed { options with maxContinuations := none } feed).run =
        { results := plain.map .ok } ∧
      (ofFeed { options with maxContinuations := some limit } feed).run =
        { results := limited.map .ok } ∧
      List.Forall₂ (Statement.Limited limit) plain limited := by
  have below : some limit ≠ some topLimit := fun same => counted (Option.some.inj same)
  apply run_twins (options.limit_carries limit) (Option.some_ne_none _).symm below items items lines
    (List.forall₂_refl cards)
  intro first twin here there
  exact Option.some.inj (here.symm.trans there)

/--
Statements with more than one continuation: a stray character on the first card, one on the last
card, and a literal without an end. A comment among the cards does not count.
-/
def longDeck : List Card :=
  [Card.ofLine 1 "      A = ?".toList, Card.ofLine 2 "     1B".toList,
    Card.ofLine 3 "     2C".toList, Card.ofLine 4 "      D".toList,
    Card.ofLine 5 "C".toList, Card.ofLine 6 "     1E".toList, Card.ofLine 7 "     2?".toList,
    Card.ofLine 8 "      F = 'S".toList, Card.ofLine 9 "     1T".toList,
    Card.ofLine 10 "     2U".toList]

theorem run_limited_long :
    ∃ plain limited : List Statement,
      (ofFeed { comments := true, maxContinuations := none } (.listed (longDeck.map .ok))).run =
        { results := plain.map .ok } ∧
      (ofFeed { comments := true, maxContinuations := some 1 } (.listed (longDeck.map .ok))).run =
        { results := limited.map .ok } ∧
      List.Forall₂ (Statement.Limited 1) plain limited := by
  have lines : Ascending longDeck := by
    unfold Ascending
    decide
  have below : (1 : UInt64) ≠ topLimit := by decide
  exact run_limited { comments := true } below (Feed.items_listed _) lines

end Statements

end CardDeck
