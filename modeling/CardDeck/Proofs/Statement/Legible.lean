import CardDeck.Proofs.Card.OneLine
import CardDeck.Proofs.Dump.Summary
import CardDeck.Proofs.Statement.Interrupted
import CardDeck.Proofs.Statement.Limit

set_option autoImplicit false

namespace CardDeck

/-- Of all that an error is about, only a stray character stands in its message as it is. -/
theorem LexError.newline_not_mem_message {error : LexError}
    (other : ∀ position, error ≠ .strayCharacter '\n' position) : '\n' ∉ error.message := by
  have digits : ∀ n, '\n' ∉ Decimal.text n := Decimal.not_mem_text (by decide)
  have place : ∀ position, '\n' ∉ LexError.place position := by
    intro position
    show '\n' ∉ " at line ".toList ++ Decimal.text position.line ++ ", column ".toList ++
      Decimal.text position.column
    simp only [List.mem_append, not_or]
    exact ⟨⟨⟨by decide, digits _⟩, by decide⟩, digits _⟩
  cases error with
  | strayCharacter ch position =>
    have plain : '\n' ≠ ch := fun same => other position (same ▸ rfl)
    show '\n' ∉ "unexpected character '".toList ++ [ch, '\''] ++ LexError.place position
    simp only [List.mem_append, List.mem_cons, List.not_mem_nil, or_false, not_or]
    exact ⟨⟨by decide, plain, by decide⟩, place position⟩
  | unterminatedLiteral lexeme position =>
    show '\n' ∉ "unterminated literal".toList ++ LexError.place position
    simp only [List.mem_append, not_or]
    exact ⟨by decide, place position⟩
  | tooManyContinuations line limit =>
    show '\n' ∉ "statement at line ".toList ++ Decimal.text line ++ " has more than ".toList ++
      Decimal.text limit.toNat ++ " continuation cards".toList
    simp only [List.mem_append, not_or]
    exact ⟨⟨⟨⟨by decide, digits _⟩, by decide⟩, digits _⟩, by decide⟩

structure Lexed.Legible (lexed : Lexed) : Prop where
  tokens : ∀ token ∈ lexed.tokens, token.Legible
  error : ∀ error ∈ lexed.error, '\n' ∉ error.message

namespace Lexed.Legible

theorem nothing : Legible ⟨[], none⟩ := by
  constructor
  · intro token member
    cases member
  · intro error given
    cases given

theorem broken {error : LexError} (plain : '\n' ∉ error.message) : Legible ⟨[], some error⟩ := by
  constructor
  · intro token member
    cases member
  · intro other given
    cases given
    exact plain

theorem after {token : Token} {later : Lexed} (legible : token.Legible)
    (further : later.Legible) : (later.after token).Legible :=
  ⟨List.forall_mem_cons.mpr ⟨legible, further.tokens⟩, further.error⟩

end Lexed.Legible

namespace Joined

theorem legible_lexFrom {cards : List Card} {index : Nat} {rest : Text} (plain : '\n' ∉ rest) :
    (lexFrom cards index rest).Legible := by
  -- whatever is cut out of the text lacks a newline too
  have taken : ∀ {text : Text} {n : Nat}, '\n' ∉ text → '\n' ∉ text.take n :=
    fun without member => without (List.mem_of_mem_take member)
  have left : ∀ {text : Text} {n : Nat}, '\n' ∉ text → '\n' ∉ text.drop n :=
    fun without member => without (List.mem_of_mem_drop member)
  fun_induction lexFrom cards index rest with
  | case1 index => exact .nothing
  | case2 index c rest white ih => exact ih (List.not_mem_of_not_mem_cons plain)
  | case3 index c rest other delimiter n closed ih =>
    refine .after ⟨?_, ?_⟩ (ih (left (List.not_mem_of_not_mem_cons plain)))
    · have whole : '\n' ∉ (c :: rest).take (n + 1) := taken plain
      exact whole
    · intro ends
      cases ends
  | case4 index c rest other delimiter opened =>
    exact .broken (LexError.newline_not_mem_message fun _ same => LexError.noConfusion same)
  | case5 index c rest other plain' kind length found ih =>
    refine .after ⟨taken plain, ?_⟩ (ih (left plain))
    intro ends
    exact absurd (beq_iff_eq.mp ends) (lexeme?_kind_ne found)
  | case6 index c rest other plain' none =>
    apply Lexed.Legible.broken
    apply LexError.newline_not_mem_message
    intro position same
    cases same
    exact plain List.mem_cons_self

end Joined

/-- The error of the limit is the only one that scanning did not come to. -/
theorem LexError.mem_inOrder {limit : Option UInt64} {first : Card} {continuations : List Card}
    {found : Option LexError} {error : LexError}
    (member : error ∈ inOrder limit first continuations found) :
    found = some error ∨ ∃ limit, error = .tooManyContinuations first.line limit := by
  unfold inOrder at member
  split at member
  · exact Or.inl (Option.mem_toList.mp member)
  next limit =>
    split at member
    · exact Or.inl (Option.mem_toList.mp member)
    · split at member
      · rcases List.mem_cons.mp member with here | there
        · exact Or.inr ⟨limit, here⟩
        · exact Or.inl (Option.mem_toList.mp there)
      · rcases List.mem_append.mp member with here | there
        · exact Or.inl (Option.mem_toList.mp here)
        · exact Or.inr ⟨limit, List.mem_singleton.mp there⟩

theorem Statement.legible_ofJoined {first : Card} {continuations : List Card}
    (lines : ∀ card ∈ first :: continuations, card.OneLine) (limit : Option UInt64) :
    (ofJoined limit first continuations).Legible := by
  have plain : '\n' ∉ Joined.text (first :: continuations) := by
    intro member
    obtain ⟨card, among, inside⟩ := List.mem_flatMap.mp member
    exact (lines card among).body inside
  have lexed : (Joined.lex (first :: continuations)).Legible := Joined.legible_lexFrom plain
  constructor
  · exact (lines first List.mem_cons_self).label
  · intro token member
    rcases List.mem_append.mp member with here | there
    · exact lexed.tokens token here
    · rw [List.mem_singleton.mp there]
      exact ⟨List.not_mem_nil, fun _ => rfl⟩
  · intro error member
    rcases LexError.mem_inOrder member with found | ⟨limit, rfl⟩
    · exact lexed.error error found
    · exact LexError.newline_not_mem_message fun _ same => LexError.noConfusion same

namespace Statements

theorem exists_cards_of_run {options : Options} {items : List Item}
    (lines : Ascending (cardsOf items)) (counted : options.maxContinuations ≠ some topLimit)
    {statement : Statement} (given : .ok statement ∈ (runItems options items).results) :
    ∃ first continuations, statement = .ofJoined options.maxContinuations first continuations ∧
      first :: continuations ⊆ cardsOf items := by
  induction items using options.group_induction with
  | nothing items empty next =>
    rw [runItems_of_none next] at given
    cases given
  | failed items error rest front suffix next =>
    rw [runItems_of_failure next] at given
    cases List.mem_singleton.mp given
  | group items first continuations rest opens ih =>
    have ascending := opens.ascending lines
    have among : first :: continuations ⊆ cardsOf items := by
      have part : cardsOf (options.relevant items) ⊆ cardsOf items :=
        List.filterMap_subset _ (List.filter_subset_self _)
      rw [opens.relevant, cardsOf_append, cardsOf_map_ok] at part
      exact fun card member => part (List.mem_append_left _ member)
    rcases opens.next_cases ascending with ⟨-, -, next⟩ |
      ⟨-, ⟨error, more, -, next⟩ | ⟨made, -, next, joined, -, -⟩⟩
    · rw [runItems_of_error next] at given
      cases given
    · rw [runItems_of_failure next] at given
      cases List.mem_singleton.mp given
    · rw [runItems_of_statement next] at given
      rcases List.mem_cons.mp given with here | there
      · cases here
        rw [Statement.ofCards_eq_ofJoined ascending counted] at joined
        exact ⟨first, continuations, (Except.ok.inj joined).symm, among⟩
      · obtain ⟨other, others, same, inside⟩ := ih (opens.ascending_rest lines) there
        have later : cardsOf rest ⊆ cardsOf items :=
          List.filterMap_subset _ opens.suffix.subset
        exact ⟨other, others, same, List.Subset.trans inside later⟩

/-- Every statement of a source is legible. -/
theorem legible_of_run {options : Options} (counted : options.maxContinuations ≠ some topLimit)
    {source : Source} {statement : Statement}
    (given : .ok statement ∈ (ofSource options source).run.results) : statement.Legible := by
  rw [run_ofSource] at given
  obtain ⟨first, continuations, rfl, among⟩ :=
    exists_cards_of_run (ascending_itemsFrom options.encoding 0 source) counted given
  apply Statement.legible_ofJoined
  intro card member
  apply source.oneLine_cards options.encoding
  rw [← source.cardsOf_items]
  exact among member

end Statements

end CardDeck
