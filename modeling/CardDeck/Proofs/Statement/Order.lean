import CardDeck.Proofs.Token.Entry
import CardDeck.Statement.Assembly

set_option autoImplicit false

namespace CardDeck

/-- The lines of the cards ascend. -/
def Ascending (cards : List Card) : Prop := cards.Pairwise fun card later => card.line < later.line

/-- The place is in the body of one of the cards. -/
structure Position.InBody (position : Position) (cards : List Card) : Prop where
  line : ∃ card ∈ cards, position.line = card.line
  first : bodyColumn ≤ position.column
  last : position.column < trailerColumn

theorem Position.lt_right (position : Position) {count : Nat} (positive : 0 < count) :
    position < position.right count := Or.inr ⟨rfl, Nat.lt_add_of_pos_right positive⟩

/-- The limit that has no successor among the numbers of 64 bits. -/
def topLimit : UInt64 := UInt64.ofNat (UInt64.size - 1)

theorem Position.InBody.lt_placeOf {cards : List Card} {card : Card}
    (lines : Ascending (cards ++ [card])) {position : Position}
    (inBody : position.InBody cards) (offset : Nat) :
    position < card.placeOf offset := by
  obtain ⟨earlier, member, line⟩ := inBody.line
  have below := (List.pairwise_append.mp lines).2.2 earlier member card (List.mem_singleton.mpr rfl)
  rw [Position.lt_iff]
  left
  rw [line]
  exact below

theorem Position.InBody.append {position : Position} {cards : List Card}
    (inBody : position.InBody cards) (more : List Card) : position.InBody (cards ++ more) := by
  obtain ⟨card, member, line⟩ := inBody.line
  exact ⟨⟨card, List.mem_append_left _ member, line⟩, inBody.first, inBody.last⟩

namespace Draft

def cards (draft : Draft) : List Card := draft.first :: draft.continuations

/-- All tokens stand before the place. -/
def Before (draft : Draft) (position : Position) : Prop :=
  ∀ token ∈ draft.tokens, token.position < position

def push (draft : Draft) (token : Token) : Draft :=
  { draft with tokens := draft.tokens ++ [token] }

structure Ordered (draft : Draft) : Prop where
  lines : Ascending draft.cards
  tokens : draft.tokens.Pairwise fun token later => token.position < later.position
  within : ∀ token ∈ draft.tokens,
    token.position.InBody draft.cards ∧ token.isStatementEnd = false

theorem cards_eq_append (draft : Draft) : ∃ front, draft.cards = front ++ [draft.lastCard] := by
  rcases List.eq_nil_or_concat draft.continuations with none | ⟨front, last, same⟩
  · exact ⟨[], by rw [cards, lastCard, none]; rfl⟩
  · refine ⟨draft.first :: front, ?_⟩
    rw [cards, lastCard, same, List.concat_eq_append, List.getLastD_concat, List.cons_append]

theorem Ordered.line_le {draft : Draft} (ordered : draft.Ordered) {card : Card}
    (member : card ∈ draft.cards) : card.line ≤ draft.lastCard.line := by
  obtain ⟨front, same⟩ := draft.cards_eq_append
  have lines := ordered.lines
  rw [same] at member lines
  rcases List.mem_append.mp member with earlier | last
  · exact Nat.le_of_lt ((List.pairwise_append.mp lines).2.2 card earlier _ List.mem_cons_self)
  · exact Nat.le_of_eq (congrArg Card.line (List.mem_singleton.mp last))

theorem addToken_of_before {draft : Draft} {token : Token} (before : draft.Before token.position) :
    draft.addToken token = .ok (draft.push token) := by
  have accepted :
      draft.tokens.getLast?.all (fun last => last.position < token.position) = true := by
    cases last : draft.tokens.getLast? with
    | none => rfl
    | some earlier =>
      rw [Option.all_some, decide_eq_true_eq]
      exact before earlier (List.mem_of_getLast? last)
  rw [addToken, if_pos accepted]
  rfl

theorem addToken_eq_ok {draft next : Draft} {token : Token}
    (added : draft.addToken token = .ok next) : next = draft.push token := by
  unfold addToken at added
  split at added
  · exact (Except.ok.inj added).symm
  · cases added

theorem Ordered.push {draft : Draft} {token : Token} (ordered : draft.Ordered)
    (before : draft.Before token.position) (inBody : token.position.InBody draft.cards)
    (regular : token.isStatementEnd = false) : (draft.push token).Ordered := by
  refine ⟨ordered.lines, ?_, ?_⟩
  · apply List.pairwise_append.mpr
    refine ⟨ordered.tokens, List.pairwise_singleton _ _, ?_⟩
    intro earlier member later last
    rw [List.mem_singleton.mp last]
    exact before earlier member
  · intro other member
    rcases List.mem_append.mp member with old | new
    · exact ordered.within other old
    · rw [List.mem_singleton.mp new]
      exact ⟨inBody, regular⟩

theorem Before.push {draft : Draft} {token : Token} {position : Position}
    (before : draft.Before token.position) (later : token.position < position) :
    (draft.push token).Before position := by
  intro other member
  rcases List.mem_append.mp member with old | new
  · exact Position.lt_trans (before other old) later
  · rw [List.mem_singleton.mp new]
    exact later

/-- The errors that joining one more card adds. -/
def limitErrors (limit : Option UInt64) (draft : Draft) : List LexError :=
  match limit with
  | none => []
  | some limit =>
    if draft.continuationCount = limit.toNat then [.tooManyContinuations draft.line limit] else []

theorem toNat_eq_top_iff {limit : UInt64} : limit.toNat + 1 = UInt64.size ↔ limit = topLimit := by
  constructor
  · intro top
    have same : topLimit.toNat + 1 = UInt64.size := by decide
    exact UInt64.toNat.inj (by omega)
  · rintro rfl
    decide

/-- The draft with one more card, and with the error that there are too many if it is one. -/
def extend (limit : Option UInt64) (draft : Draft) (card : Card) : Draft :=
  { draft.addCard card with errors := draft.errors ++ draft.limitErrors limit }

@[simp] theorem cards_extend (limit : Option UInt64) (draft : Draft) (card : Card) :
    (draft.extend limit card).cards = draft.cards ++ [card] := rfl

@[simp] theorem tokens_extend (limit : Option UInt64) (draft : Draft) (card : Card) :
    (draft.extend limit card).tokens = draft.tokens := rfl

@[simp] theorem errors_extend (limit : Option UInt64) (draft : Draft) (card : Card) :
    (draft.extend limit card).errors = draft.errors ++ draft.limitErrors limit := rfl

theorem join_eq {limit : Option UInt64} (counted : limit ≠ some topLimit) (draft : Draft)
    (card : Card) : draft.join limit card = .ok (draft.extend limit card) := by
  cases limit with
  | none => simp [join, extend, limitErrors, addCard]
  | some limit =>
    have below : ¬ limit.toNat + 1 = UInt64.size := by
      intro top
      exact counted (congrArg some (toNat_eq_top_iff.mp top))
    simp only [join, extend, limitErrors, below, ↓reduceIte, continuationCount_addCard,
      Nat.add_right_cancel_iff]
    split
    · rfl
    · simp [addCard]

theorem join_top (draft : Draft) (card : Card) :
    draft.join (some topLimit) card = .error .limitOverflow := by
  rw [join, if_pos (toNat_eq_top_iff.mpr rfl)]

theorem join_eq_ok {limit : Option UInt64} {draft joined : Draft} {card : Card}
    (done : draft.join limit card = .ok joined) : joined = draft.extend limit card := by
  by_cases top : limit = some topLimit
  · rw [top, join_top] at done
    cases done
  · rw [join_eq top] at done
    exact (Except.ok.inj done).symm

end Draft

namespace Assembly

/-- The draft is in order, and a literal that is still open stands after its tokens. -/
structure Ordered (assembly : Assembly) : Prop where
  draft : assembly.draft.Ordered
  literal : ∀ literal, assembly.progress = .inside literal →
    assembly.draft.Before literal.position ∧ literal.position.InBody assembly.draft.cards

theorem enter_ordered {draft : Draft} {position : Position} {text : Text} (ordered : draft.Ordered)
    (before : draft.Before position) (line : ∃ card ∈ draft.cards, position.line = card.line)
    (first : bodyColumn ≤ position.column)
    (last : position.column + text.length ≤ trailerColumn) :
    ∃ entered, enter draft (entries position text) = .ok entered ∧ entered.Ordered ∧
      entered.draft.cards = draft.cards := by
  fun_induction entries position text generalizing draft with
  | case1 position =>
    refine ⟨_, rfl, ⟨ordered, ?_⟩, rfl⟩
    intro literal inside
    cases inside
  | case2 position c rest white ih =>
    have beyond : draft.Before (position.right 1) := by
      intro token member
      exact Position.lt_trans (before token member) (position.lt_right Nat.one_pos)
    rw [List.length_cons] at last
    apply ih ordered beyond line
    · exact Nat.le_succ_of_le first
    · rw [Position.right_column]
      omega
  | case3 position c rest white entry =>
    rename_i ih
    subst entry
    rw [List.length_cons] at last
    have inBody : position.InBody draft.cards := ⟨line, first, by omega⟩
    have fits := (Entry.front_text position c rest).2
    have positive := Entry.front_length_pos position c rest
    have place := Entry.front_position position c rest
    cases same : Entry.front position c rest with
    | token token =>
      rw [same] at place positive
      subst place
      have after : draft.Before token.position := before
      have beyond := Position.lt_right token.position positive
      obtain ⟨entered, done, result, cards⟩ :=
        ih (ordered.push after inBody (Entry.front_regular same)) (by
          rw [same]
          exact after.push beyond) line (Nat.le_add_right_of_le first) (by
          rw [Position.right_column, List.length_drop, List.length_cons]
          omega)
      refine ⟨entered, ?_, result, cards⟩
      rw [same] at done
      rw [enter, Draft.addToken_of_before before]
      exact done
    | unclosed literal =>
      rw [same] at place
      subst place
      refine ⟨_, rfl, ⟨ordered, ?_⟩, rfl⟩
      intro other inside
      cases inside
      exact ⟨before, inBody⟩
    | stray ch spot =>
      refine ⟨_, rfl, ⟨⟨ordered.lines, ordered.tokens, ordered.within⟩, ?_⟩, rfl⟩
      intro literal inside
      cases inside

theorem entriesFrom_ordered {draft : Draft} {card : Card} {offset : Nat} (ordered : draft.Ordered)
    (member : card ∈ draft.cards) (before : draft.Before (card.placeOf offset))
    (within : offset ≤ bodyWidth) :
    ∃ entered, enter draft (card.entriesFrom offset) = .ok entered ∧ entered.Ordered ∧
      entered.draft.cards = draft.cards := by
  apply enter_ordered ordered before ⟨card, member, rfl⟩
  · exact Nat.le_add_right _ _
  · have width : bodyColumn + bodyWidth = trailerColumn := by decide
    rw [List.length_drop, card.body_length]
    simp only [Card.placeOf]
    omega

theorem start_ordered (first : Card) :
    ∃ started, start first = .ok started ∧ started.Ordered ∧ started.draft.cards = [first] := by
  have ordered : ({ first } : Draft).Ordered := by
    refine ⟨List.pairwise_singleton _ _, List.Pairwise.nil, ?_⟩
    intro token member
    cases member
  apply entriesFrom_ordered ordered List.mem_cons_self
  · intro token member
    cases member
  · exact Nat.zero_le _

/-- A card with a line after those that are there is joined without a fault, and in order. -/
theorem join_ordered {options : Options} {assembly : Assembly} {card : Card}
    (ordered : assembly.Ordered) (lines : Ascending (assembly.draft.cards ++ [card]))
    (counted : options.maxContinuations ≠ some topLimit) :
    ∃ joined, assembly.join options card = .ok joined ∧ joined.Ordered ∧
      joined.draft.cards = assembly.draft.cards ++ [card] := by
  let draft := assembly.draft.extend options.maxContinuations card
  have inOrder : draft.Ordered := by
    refine ⟨lines, ordered.draft.tokens, ?_⟩
    intro token member
    obtain ⟨inBody, regular⟩ := ordered.draft.within token member
    exact ⟨inBody.append [card], regular⟩
  have here : card ∈ draft.cards := by
    rw [Draft.cards_extend]
    exact List.mem_append_right _ List.mem_cons_self
  have before : ∀ offset, draft.Before (card.placeOf offset) := by
    intro offset token member
    exact (ordered.draft.within token member).1.lt_placeOf lines offset
  rw [join, Draft.join_eq counted, Fault.ok_bind]
  cases standing : assembly.progress with
  | ready => exact entriesFrom_ordered inOrder here (before 0) (Nat.zero_le _)
  | stopped =>
    refine ⟨_, rfl, ⟨inOrder, ?_⟩, rfl⟩
    intro literal inside
    cases inside
  | inside literal =>
    obtain ⟨behind, inBody⟩ := ordered.literal literal standing
    have after : draft.Before literal.position := behind
    rcases literal.resume_cases card.body with ⟨n, closed, -, resumed⟩ | ⟨-, resumed⟩
    · simp only [resumed]
      rw [Draft.addToken_of_before after, Fault.ok_bind]
      have within := OpenLiteral.closingIn?_le closed
      rw [card.body_length] at within
      exact entriesFrom_ordered (inOrder.push after (inBody.append [card]) rfl) here
        (after.push (inBody.lt_placeOf lines n)) within
    · simp only [resumed]
      refine ⟨_, rfl, ⟨inOrder, ?_⟩, rfl⟩
      intro other inside
      cases inside
      exact ⟨after, inBody.append [card]⟩

/-- The limit counts only if a card is joined. -/
theorem joinAll_ordered {options : Options} {assembly : Assembly} {cards : List Card}
    (ordered : assembly.Ordered) (lines : Ascending (assembly.draft.cards ++ cards))
    (counted : cards ≠ [] → options.maxContinuations ≠ some topLimit) :
    ∃ joined, assembly.joinAll options cards = .ok joined ∧ joined.Ordered ∧
      joined.draft.cards = assembly.draft.cards ++ cards := by
  induction cards generalizing assembly with
  | nil => exact ⟨assembly, rfl, ordered, (List.append_nil _).symm⟩
  | cons card cards ih =>
    rw [List.append_cons] at lines
    have upToHere : Ascending (assembly.draft.cards ++ [card]) := (List.pairwise_append.mp lines).1
    have limit := counted (List.cons_ne_nil card cards)
    obtain ⟨joined, done, further, same⟩ := join_ordered ordered upToHere limit
    obtain ⟨all, finished, result, cardsOf⟩ := ih further (same ▸ lines) (fun _ => limit)
    refine ⟨all, ?_, result, ?_⟩
    · rw [joinAll, done]
      exact finished
    · rw [cardsOf, same, ← List.append_cons]

theorem joinAll_top {options : Options} (limit : options.maxContinuations = some topLimit)
    (assembly : Assembly) (card : Card) (cards : List Card) :
    assembly.joinAll options (card :: cards) = .error .limitOverflow := by
  rw [joinAll, join, limit, Draft.join_top]
  rfl

end Assembly

/--
The tokens stand in source order; the last of them is the end of the statement, after the body of
the last card, and each of the others is in the body of a card of the statement.
-/
structure Statement.Ordered (statement : Statement) : Prop where
  tokens : statement.tokens.Pairwise fun token later => token.position < later.position
  ended : ∃ tokens, statement.tokens =
      tokens ++ [.statementEnd ⟨statement.lastLine, trailerColumn⟩] ∧
    ∀ token ∈ tokens, token.position.InBody statement.cards ∧ token.isStatementEnd = false

theorem Draft.Ordered.close {draft : Draft} (ordered : draft.Ordered) : draft.close.Ordered := by
  refine ⟨?_, draft.tokens, rfl, ordered.within⟩
  apply List.pairwise_append.mpr
  refine ⟨ordered.tokens, List.pairwise_singleton _ _, ?_⟩
  intro token member ending last
  rw [List.mem_singleton.mp last]
  obtain ⟨⟨⟨card, there, line⟩, -, column⟩, -⟩ := ordered.within token member
  have line_le := ordered.line_le there
  rcases Nat.lt_or_eq_of_le line_le with below | same
  · exact Or.inl (by rw [line]; exact below)
  · exact Or.inr ⟨by rw [line, same]; rfl, column⟩

/-- A statement is closed without a fault, in order and with all its cards. -/
theorem Assembly.finish_ordered {assembly : Assembly} (ordered : assembly.Ordered) :
    ∃ statement, assembly.finish = .ok statement ∧ statement.Ordered ∧
      statement.cards = assembly.draft.cards := by
  cases standing : assembly.progress with
  | ready =>
    simp only [finish, standing]
    exact ⟨_, rfl, ordered.draft.close, rfl⟩
  | stopped =>
    simp only [finish, standing]
    exact ⟨_, rfl, ordered.draft.close, rfl⟩
  | inside literal =>
    obtain ⟨before, inBody⟩ := ordered.literal literal standing
    by_cases edge : literal.closedAtEdge = true
    · simp only [finish, standing, OpenLiteral.finish, edge, ↓reduceIte]
      have after : assembly.draft.Before literal.token.position := before
      rw [Draft.addToken_of_before after]
      exact ⟨_, rfl, (ordered.draft.push after inBody rfl).close, rfl⟩
    · simp only [finish, standing, OpenLiteral.finish, edge, Bool.false_eq_true, ↓reduceIte]
      refine ⟨_, rfl, Draft.Ordered.close ⟨?_, ?_, ?_⟩, rfl⟩
      · exact ordered.draft.lines
      · exact ordered.draft.tokens
      · exact ordered.draft.within

/-- Cards whose lines ascend make a statement, which is in order and has them as its cards. -/
theorem Statement.ofCards_ordered {options : Options} {first : Card} {continuations : List Card}
    (lines : Ascending (first :: continuations))
    (counted : continuations ≠ [] → options.maxContinuations ≠ some topLimit) :
    ∃ statement, ofCards options first continuations = .ok statement ∧
      statement.cards = first :: continuations ∧ statement.Ordered := by
  obtain ⟨started, begun, inOrder, start⟩ := Assembly.start_ordered first
  have upToEnd : Ascending (started.draft.cards ++ continuations) := by
    rw [start]
    exact lines
  obtain ⟨joined, done, further, same⟩ := Assembly.joinAll_ordered inOrder upToEnd counted
  obtain ⟨statement, finished, ordered, cards⟩ := Assembly.finish_ordered further
  refine ⟨statement, ?_, ?_, ordered⟩
  · rw [ofCards, begun, Fault.ok_bind, done, Fault.ok_bind, finished]
  · rw [cards, same, start]
    rfl

end CardDeck
