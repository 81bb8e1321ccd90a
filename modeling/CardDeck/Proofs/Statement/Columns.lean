import CardDeck.Proofs.Statement.Twins

set_option autoImplicit false

namespace CardDeck

namespace Joined

theorem lexFrom_congr {cards twins : List Card} (lines : twins.map Card.line = cards.map Card.line)
    (index : Nat) (rest : Text) : lexFrom twins index rest = lexFrom cards index rest := by
  have places : ∀ index, place twins index = place cards index := by
    intro index
    rw [place, place, lines]
  fun_induction lexFrom cards index rest with
  | case1 index => rw [lexFrom]
  | case2 index c rest white ih => rw [lexFrom_white white, ih]
  | case3 index c rest plain delimiter n closed ih =>
    rw [lexFrom, if_neg plain, if_pos delimiter, closed]
    simp only [places, ih]
  | case4 index c rest plain delimiter opened =>
    rw [lexFrom, if_neg plain, if_pos delimiter, opened]
    simp only [places]
  | case5 index c rest plain other kind length found ih =>
    rw [lexFrom, if_neg plain, if_neg other, found]
    simp only [places, ih]
  | case6 index c rest plain other none =>
    rw [lexFrom, if_neg plain, if_neg other, none]
    simp only [places]

theorem lex_congr {cards twins : List Card} (lines : twins.map Card.line = cards.map Card.line)
    (bodies : twins.map Card.body = cards.map Card.body) : lex twins = lex cards := by
  have same : text twins = text cards := by
    rw [text, List.flatMap_def, bodies, ← List.flatMap_def]
    rfl
  rw [lex, lex, same, lexFrom_congr lines]

end Joined

namespace LexError

theorem isLate_congr {cards twins : List Card} (lines : twins.map Card.line = cards.map Card.line)
    (error : LexError) : isLate twins error = isLate cards error := by
  cases error with
  | strayCharacter ch position =>
    have view : ∀ cards : List Card, cards.any (fun card => card.line == position.line) =
        (cards.map Card.line).any (· == position.line) := by
      intro cards
      rw [List.any_map]
      rfl
    rw [isLate, view, lines, ← view]
    rfl
  | unterminatedLiteral lexeme position => rfl
  | tooManyContinuations line limit => rfl

theorem inOrder_congr {first twin : Card} {continuations followers : List Card}
    (start : twin.line = first.line)
    (lines : followers.map Card.line = continuations.map Card.line) (limit : Option UInt64)
    (found : Option LexError) :
    inOrder limit twin followers found = inOrder limit first continuations found := by
  have length : followers.length = continuations.length := by
    rw [← List.length_map Card.line, lines, List.length_map]
  cases limit with
  | none => rfl
  | some limit =>
    have late : isLate (followers.drop limit.toNat) = isLate (continuations.drop limit.toNat) := by
      funext error
      apply isLate_congr
      rw [List.map_drop, List.map_drop, lines]
    rw [inOrder, inOrder, length, late, start]

end LexError

/-- Cards of one line that mean the same, whatever else is punched on them. -/
structure Options.Alike (options : Options) (card twin : Card) : Prop where
  line : twin.line = card.line
  body : twin.body = card.body
  continues : twin.isContinuation = card.isContinuation
  ignores : options.ignores twin = options.ignores card
  /-- Behind the first card of all, a label counts where a statement starts and nowhere else. -/
  label : options.ignores card = false → card.isContinuation = false → twin.label = card.label

/-- Statements that have the same label, as many cards, the same tokens and the same errors. -/
structure Statement.Alike (statement other : Statement) : Prop where
  label : other.label = statement.label
  cards : other.cards.length = statement.cards.length
  tokens : other.tokens = statement.tokens
  errors : other.errors = statement.errors

theorem Statement.alike_ofJoined {limit : Option UInt64} {first twin : Card}
    {continuations followers : List Card} (label : twin.label = first.label)
    (lines : (twin :: followers).map Card.line = (first :: continuations).map Card.line)
    (bodies : (twin :: followers).map Card.body = (first :: continuations).map Card.body) :
    Alike (ofJoined limit first continuations) (ofJoined limit twin followers) := by
  obtain ⟨start, others⟩ := List.cons.inj lines
  have last : (followers.getLastD twin).line = (continuations.getLastD first).line := by
    have view : ∀ (first : Card) (cards : List Card),
        (cards.getLastD first).line = (cards.map Card.line).getLastD first.line :=
      fun _ _ => List.getLastD_map.symm
    rw [view, view, start, others]
  have lexed := Joined.lex_congr lines bodies
  refine ⟨label, ?_, ?_, ?_⟩
  · show (twin :: followers).length = (first :: continuations).length
    rw [← List.length_map Card.line, lines, List.length_map]
  · rw [ofJoined, ofJoined, lexed, last]
  · rw [ofJoined, ofJoined, lexed, LexError.inOrder_congr start others]

theorem Options.alike_carries (options : Options) :
    options.Carries options options.Alike (fun card twin => twin.label = card.label)
      Statement.Alike := by
  refine ⟨⟨?_, ?_, ?_⟩, ?_, ?_⟩
  · intro card twin alike
    exact alike.line
  · intro card twin alike
    exact alike.ignores
  · intro card twin alike
    exact alike.continues
  · intro card twin alike
    exact alike.label
  · intro first twin continuations followers label head tail
    have cards : List.Forall₂ options.Alike (first :: continuations) (twin :: followers) :=
      .cons head tail
    apply Statement.alike_ofJoined label
    · exact map_eq_of_forall₂ (fun _ _ alike => alike.line) cards
    · exact map_eq_of_forall₂ (fun _ _ alike => alike.body) cards

namespace Statements

/--
Decks that agree card by card on all that has a meaning give as many statements, which agree one by
one. The label counts on cards that start a statement: those that continue nothing, and the first
card of all that is not ignored.
-/
theorem run_alike {options : Options} (counted : options.maxContinuations ≠ some topLimit)
    {feed second : Feed} {cards twins : List Card} (items : feed.items = cards.map .ok)
    (items' : second.items = twins.map .ok) (lines : Ascending cards)
    (alike : List.Forall₂ options.Alike cards twins)
    (front : ∀ first twin, (cards.find? fun card => !options.ignores card) = some first →
      (twins.find? fun card => !options.ignores card) = some twin → twin.label = first.label) :
    ∃ statements others : List Statement,
      (ofFeed options feed).run = { results := statements.map .ok } ∧
      (ofFeed options second).run = { results := others.map .ok } ∧
      List.Forall₂ Statement.Alike statements others :=
  run_twins options.alike_carries counted counted items items' lines alike front

/-- A deck that begins with a continuation, goes on over a card, and has a blank one. -/
def plainDeck : List Card :=
  [Card.ofLine 1 "   101A = 'S".toList, Card.ofLine 2 "     2T".toList, Card.ofLine 3 [],
    Card.ofLine 4 "   20 B = ?".toList, Card.ofLine 5 "     1C".toList]

/-- The same deck with other marks, with labels on its continuations and with trailers. -/
def punchedDeck : List Card :=
  [Card.ofLine 1 ("   10+A = 'S".toList.rightpad 72 ' ' ++ "DECK0010".toList),
    Card.ofLine 2 ("  99 *T".toList.rightpad 72 ' ' ++ "DECK0020".toList),
    Card.ofLine 3 ([].rightpad 72 ' ' ++ "DECK0030".toList),
    Card.ofLine 4 ("   200B = ?".toList.rightpad 72 ' ' ++ "DECK0040".toList),
    Card.ofLine 5 "   30XC".toList]

theorem run_alike_punched :
    ∃ statements others : List Statement,
      (ofFeed { skipBlank := true } (.listed (plainDeck.map .ok))).run =
        { results := statements.map .ok } ∧
      (ofFeed { skipBlank := true } (.listed (punchedDeck.map .ok))).run =
        { results := others.map .ok } ∧
      List.Forall₂ Statement.Alike statements others := by
  have lines : Ascending plainDeck := by
    unfold Ascending
    decide
  have alike : List.Forall₂ (Options.Alike { skipBlank := true }) plainDeck punchedDeck := by
    refine .cons ?_ (.cons ?_ (.cons ?_ (.cons ?_ (.cons ?_ .nil))))
    all_goals constructor <;> decide +kernel
  apply run_alike (by decide) (Feed.items_listed _) (Feed.items_listed _) lines alike
  intro first twin here there
  cases here
  cases there
  decide

end Statements

end CardDeck
