import CardDeck.Proofs.Feed.Decoded
import CardDeck.Proofs.Statement.Continued
import CardDeck.Proofs.Statement.Partition
import CardDeck.Proofs.Statement.Transcription

set_option autoImplicit false

namespace CardDeck

namespace Card

theorem ofLines_append (line : Nat) (front back : List Text) :
    ofLines line (front ++ back) = ofLines line front ++ ofLines (line + front.length) back := by
  induction front generalizing line with
  | nil => rfl
  | cons text front ih =>
    rw [List.cons_append, ofLines_cons, ih, List.length_cons, Nat.add_assoc, Nat.add_comm 1]
    rfl

theorem ofLine_down (count line : Nat) (text : Text) :
    ofLine (line + count) text = (Transcription.down count).card (ofLine line text) := by
  have same : (Transcription.down count).text text = text := List.map_id _
  rw [← Transcription.card_ofLine, same]
  rfl

theorem ofLines_down (count line : Nat) (texts : List Text) :
    ofLines (line + count) texts = (ofLines line texts).map (Transcription.down count).card := by
  induction texts generalizing line with
  | nil => rfl
  | cons text texts ih =>
    rw [ofLines_cons, ofLines_cons, List.map_cons, ofLine_down, Nat.add_right_comm, ih]

/-- Behind a text whose last line was ended, the cards of a text stand that much further down. -/
theorem ofText_append {front : Text} (whole : front = [] ∨ front.getLast? = some '\n')
    (back : Text) :
    ofText (front ++ back) =
      ofText front ++ (ofText back).map (Transcription.down (front.count '\n')).card := by
  have alone : Lines.all '\n' front = Lines.ended '\n' front := by
    have same := Lines.all_append whole []
    rw [List.append_nil] at same
    rw [same]
    exact List.append_nil _
  rw [ofText, ofText, ofText, Lines.all_append whole, alone, ofLines_append, ofLines_down,
    Lines.ended_length]

end Card

namespace Statements

theorem run_ofText (options : Options) (text : Text) :
    (ofText options text).run = runItems options ((Card.ofText text).map .ok) := by
  rw [← Feed.items_ofText]
  exact run_eq_runItems rfl

/-- A text gives statements that partition the cards that are kept, or the limit overflows. -/
theorem run_ofText_cases (options : Options) (text : Text) :
    ((ofText options text).run.fault = some .limitOverflow ∧
      options.Overflows ((Card.ofText text).map .ok)) ∨
    ∃ statements : List Statement, (ofText options text).run = { results := statements.map .ok } ∧
      Partition statements ((Card.ofText text).filter fun card => !options.ignores card) := by
  have lines : Ascending (cardsOf ((Card.ofText text).map .ok)) := by
    rw [cardsOf_map_ok]
    exact Card.ofText_ascending text
  have sound : Sound options _ _ := runItems_sound lines
  rw [run_ofText]
  rcases sound.fault with ⟨-, fits⟩ | overflow
  · right
    obtain ⟨statements, run, partition⟩ := runItems_partition_of_fits (Clean.map_ok _) lines fits
    rw [cardsOf_relevant, cardsOf_map_ok] at partition
    exact ⟨statements, run, partition⟩
  · exact Or.inl overflow

theorem runItems_ofText {options : Options} (counted : options.maxContinuations ≠ some topLimit)
    (text : Text) : ∃ statements : List Statement,
      runItems options ((Card.ofText text).map .ok) = { results := statements.map .ok } := by
  rw [← run_ofText]
  rcases run_ofText_cases options text with ⟨-, limit, -⟩ | ⟨statements, run, -⟩
  · exact absurd limit counted
  · exact ⟨statements, run⟩

/-- Further down, the same cards start or go on with a statement. -/
theorem fresh_down {options : Options} {cards : List Card}
    (fresh : ∀ card, cards.find? (fun card => !options.ignores card) = some card →
      card.isContinuation = false) (count : Nat) :
    ∀ item, (options.relevant ((cards.map (Transcription.down count).card).map .ok)).head? =
      some item → continues item = false := by
  intro item front
  have kept : (fun card => !options.ignores card) ∘ (Transcription.down count).card =
      fun card => !options.ignores card :=
    funext fun card => congrArg (! ·) (Transcription.ignores_card _ options card)
  rw [Options.head?_relevant_map_ok, List.find?_map, kept] at front
  obtain ⟨moved, found, rfl⟩ := Option.map_eq_some_iff.mp front
  obtain ⟨card, first, rfl⟩ := Option.map_eq_some_iff.mp found
  exact (Transcription.card_isContinuation _ card).trans (fresh card first)

/--
Behind a text whose last line was ended, and where no card goes on with it, the statements of a text
are those that it has alone, as far down as the first text has lines.
-/
theorem run_ofText_append {options : Options} (counted : options.maxContinuations ≠ some topLimit)
    {front back : Text} (whole : front = [] ∨ front.getLast? = some '\n')
    (fresh : ∀ card, (Card.ofText back).find? (fun card => !options.ignores card) = some card →
      card.isContinuation = false) :
    ∃ first second : List Statement,
      (ofText options front).run = { results := first.map .ok } ∧
      (ofText options back).run = { results := second.map .ok } ∧
      (ofText options (front ++ back)).run =
        { results := first.map .ok ++
            (second.map (Transcription.down (front.count '\n')).statement).map .ok } := by
  obtain ⟨first, before⟩ := runItems_ofText counted front
  obtain ⟨second, after⟩ := runItems_ofText counted back
  refine ⟨first, second, (run_ofText options front).trans before,
    (run_ofText options back).trans after, ?_⟩
  have moved : ((Card.ofText back).map (Transcription.down (front.count '\n')).card).map .ok =
      ((Card.ofText back).map .ok).map (Transcription.down (front.count '\n')).item := by
    rw [List.map_map, List.map_map]
    rfl
  have lines : Ascending (cardsOf ((Card.ofText front).map .ok)) := by
    rw [cardsOf_map_ok]
    exact Card.ofText_ascending front
  rw [run_ofText, Card.ofText_append whole, List.map_append,
    runItems_append_fresh (Clean.map_ok _) lines counted (fresh_down fresh _), before, moved,
    Transcription.runItems_items, after]
  simp only [Run.after, Transcription.run, List.map_map]
  rfl

/-- More cards than the limit, a comment among them, and a literal that stays open. -/
def openFront : Text := "      A = ?\n     1B\nC\n     2'S\n      D = 'S\n".toList

/-- A comment before the first statement, which has more cards than the limit. -/
def freshBack : Text := "C\n      E = 1\n     1+ '2'".toList

theorem run_ofText_append_open :
    ∃ first second : List Statement,
      (ofText { comments := true, maxContinuations := some 0 } openFront).run =
        { results := first.map .ok } ∧
      (ofText { comments := true, maxContinuations := some 0 } freshBack).run =
        { results := second.map .ok } ∧
      (ofText { comments := true, maxContinuations := some 0 } (openFront ++ freshBack)).run =
        { results := first.map .ok ++
            (second.map (Transcription.down 5).statement).map .ok } := by
  have fresh : ∀ card, (Card.ofText freshBack).find? (fun card =>
        !Options.ignores { comments := true, maxContinuations := some 0 } card) = some card →
      card.isContinuation = false := by
    intro card found
    have first : ((Card.ofText freshBack).find? fun card =>
        !Options.ignores { comments := true, maxContinuations := some 0 } card).all
        (fun card => !card.isContinuation) = true := by decide
    rw [found] at first
    simpa using first
  exact run_ofText_append (by decide) (Or.inr (by decide)) fresh

end Statements

end CardDeck
