import CardDeck.Proofs.Feed.Lines
import CardDeck.Proofs.Statement.Groups
import CardDeck.Proofs.Token.Slice

set_option autoImplicit false

namespace CardDeck

/-- A card is joined to a statement while the limit has no successor. -/
def Options.Overflows (options : Options) (items : List Item) : Prop :=
  options.maxContinuations = some topLimit ∧
    ∃ before card after, before ≠ [] ∧ card.isContinuation = true ∧
      options.relevant items = before.map .ok ++ .ok card :: after

namespace Options

theorem overflows_of_opens {options : Options} {items rest : List Item} {first card : Card}
    {continuations : List Card} (limit : options.maxContinuations = some topLimit)
    (opens : options.Opens items first (card :: continuations) rest) : options.Overflows items := by
  refine ⟨limit, [first], card, continuations.map .ok ++ options.relevant rest, ?_, ?_, ?_⟩
  · exact List.cons_ne_nil _ _
  · exact opens.follow card List.mem_cons_self
  · rw [opens.relevant]
    rfl

theorem Opens.overflows_iff {options : Options} {items rest : List Item} {first : Card}
    {continuations : List Card} (opens : options.Opens items first continuations rest)
    (counted : continuations ≠ [] → options.maxContinuations ≠ some topLimit) :
    options.Overflows items ↔ options.Overflows rest := by
  have whole := opens.relevant
  constructor
  · rintro ⟨limit, before, card, after, some, continuation, split⟩
    have alone : continuations = [] := by
      apply Classical.byContradiction
      intro joined
      exact counted joined limit
    rw [split, alone] at whole
    obtain ⟨front, before, rfl⟩ := List.exists_cons_of_ne_nil some
    have back : before.map .ok ++ .ok card :: after = options.relevant rest :=
      (List.cons.inj whole).2
    refine ⟨limit, before, card, after, ?_, continuation, back.symm⟩
    rintro rfl
    have front : (options.relevant rest).head? = Option.some (.ok card) := by
      rw [← back]
      rfl
    have fresh := opens.fresh front
    rw [continuation] at fresh
    cases fresh
  · rintro ⟨limit, before, card, after, -, continuation, split⟩
    refine ⟨limit, first :: continuations ++ before, card, after, ?_, continuation, ?_⟩
    · exact List.cons_ne_nil _ _
    · rw [whole, split, List.map_append, List.append_assoc]

end Options

namespace Statements

/-- All statements of the run are in order, and it faults where the limit overflows only. -/
structure Sound (options : Options) (items : List Item) (run : Run) : Prop where
  ordered : ∀ statement, .ok statement ∈ run.results → statement.Ordered
  fault : (run.fault = none ∧ ¬ options.Overflows items) ∨
    (run.fault = some .limitOverflow ∧ options.Overflows items)

theorem runItems_sound {options : Options} {items : List Item}
    (lines : Ascending (cardsOf items)) : Sound options items (runItems options items) := by
  induction items using options.group_induction with
  | nothing items empty next =>
    rw [runItems_of_none next]
    refine ⟨?_, Or.inl ⟨rfl, ?_⟩⟩
    · intro statement member
      cases member
    · rintro ⟨-, before, card, after, -, -, split⟩
      rw [empty] at split
      cases before <;> cases split
  | failed items error rest front suffix next =>
    rw [runItems_of_failure next]
    refine ⟨?_, Or.inl ⟨rfl, ?_⟩⟩
    · intro statement member
      cases List.mem_singleton.mp member
    · rintro ⟨-, before, card, after, some, -, split⟩
      rw [front] at split
      cases before <;> cases split
  | group items first continuations rest opens ih =>
    rcases opens.next_cases (opens.ascending lines) with ⟨top, joined, next⟩ |
      ⟨counted, ⟨error, more, broken, next⟩ | ⟨statement, -, next, -, -, ordered⟩⟩
    · obtain ⟨card, continuations, rfl⟩ := List.exists_cons_of_ne_nil joined
      rw [runItems_of_error next]
      refine ⟨?_, Or.inr ⟨rfl, Options.overflows_of_opens top opens⟩⟩
      intro statement member
      cases member
    · rw [runItems_of_failure next]
      refine ⟨?_, Or.inl ⟨rfl, ?_⟩⟩
      · intro statement member
        cases List.mem_singleton.mp member
      · rw [opens.overflows_iff counted, broken]
        rintro ⟨-, before, card, after, some, -, split⟩
        rw [Options.relevant_error] at split
        cases before <;> cases split
    · have later := ih (opens.ascending_rest lines)
      rw [runItems_of_statement next]
      constructor
      · intro other member
        rcases List.mem_cons.mp member with here | behind
        · rw [Except.ok.inj here]
          exact ordered
        · exact later.ordered other behind
      · rw [opens.overflows_iff counted]
        exact later.fault

/-- Without the limit that cannot be counted a feed is read without a fault. -/
theorem run_fault_none {options : Options} (counted : options.maxContinuations ≠ some topLimit)
    {feed : Feed} (lines : Ascending (cardsOf feed.items)) :
    (ofFeed options feed).run.fault = none := by
  rw [run_eq_runItems rfl]
  rcases (runItems_sound lines).fault with ⟨none, -⟩ | ⟨-, limit, -⟩
  · exact none
  · exact absurd limit counted

end Statements

/--
Where statements come from: a text, or a source of bytes, which holds text in the encoding of the
options or was decoded already.
-/
inductive Origin where
  | text (deck : Text)
  | bytes (source : Source)
  | decoded (source : Source)

namespace Origin

def statements (options : Options) : Origin → Statements
  | text deck => Statements.ofText options deck
  | bytes source => Statements.ofSource options source
  | decoded source => Statements.ofUtf8Source options source

/-- All items that the origin comes to. -/
def items (options : Options) (origin : Origin) : List Item :=
  (origin.statements options).cards.feed.items

theorem exists_reader (options : Options) (origin : Origin) :
    ∃ reader, origin.statements options = Statements.ofFeed options (.reading reader) := by
  cases origin with
  | text deck => exact ⟨_, rfl⟩
  | bytes source => exact ⟨_, rfl⟩
  | decoded source => exact ⟨_, rfl⟩

/--
Whatever is read, the run is sound, and all that is cut out of lines and bodies is there. The one
fault that a sound run can have is that of the limit, and its statements have their tokens in order
and their end once, as the last of them.
-/
theorem run_sound (options : Options) (origin : Origin) :
    Statements.Sound options (origin.items options) (origin.statements options).run ∧
      (∀ card : Card, card.Sliced) ∧ ∀ line text, Card.Padded line text := by
  refine ⟨?_, Card.sliced, Card.ofLine_padded⟩
  obtain ⟨reader, same⟩ := origin.exists_reader options
  rw [items, same, Statements.run_eq_runItems rfl]
  exact Statements.runItems_sound reader.ascending.1

end Origin

end CardDeck
