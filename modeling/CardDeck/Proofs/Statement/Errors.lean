import CardDeck.Proofs.Statement.Joined

set_option autoImplicit false

namespace CardDeck

namespace LexError

/-- The error is found no sooner than the first of the cards is joined. -/
def isLate (cards : List Card) : LexError → Bool
  | strayCharacter _ position => cards.any fun card => card.line == position.line
  | unterminatedLiteral _ _ => true
  | tooManyContinuations _ _ => false

theorem isLate_append (front back : List Card) (error : LexError) :
    isLate (front ++ back) error = (isLate front error || isLate back error) := by
  cases error with
  | strayCharacter ch position => exact List.any_append
  | unterminatedLiteral lexeme position => rfl
  | tooManyContinuations line limit => rfl

/-- The error that scanning came to and the error of the limit, in the order they are found in. -/
def inOrder (limit : Option UInt64) (first : Card) (continuations : List Card)
    (found : Option LexError) : List LexError :=
  match limit with
  | none => found.toList
  | some limit =>
    if continuations.length ≤ limit.toNat then found.toList
    else if found.toList.any (isLate (continuations.drop limit.toNat)) then
      .tooManyContinuations first.line limit :: found.toList
    else found.toList ++ [.tooManyContinuations first.line limit]

variable {first : Card} {continuations : List Card}

theorem inOrder_within {limit : UInt64} (within : continuations.length ≤ limit.toNat)
    (found : Option LexError) :
    inOrder (some limit) first continuations found = found.toList := if_pos within

theorem inOrder_beyond {limit : UInt64} (beyond : limit.toNat < continuations.length)
    (found : Option LexError) :
    inOrder (some limit) first continuations found =
      if found.toList.any (isLate (continuations.drop limit.toNat)) then
        .tooManyContinuations first.line limit :: found.toList
      else found.toList ++ [.tooManyContinuations first.line limit] :=
  if_neg (Nat.not_le.mpr beyond)

@[simp] theorem inOrder_nil (limit : Option UInt64) (first : Card) (found : Option LexError) :
    inOrder limit first [] found = found.toList := by
  cases limit with
  | none => rfl
  | some limit => exact inOrder_within (Nat.zero_le _) found

/-- One more card adds the error of the limit if it is the first beyond it. -/
theorem inOrder_concat (limit : Option UInt64) (draft : Draft) {card : Card}
    {found : Option LexError}
    (earlier : ∀ error, found = some error → isLate [card] error = false) :
    inOrder limit draft.first (draft.continuations ++ [card]) found =
      inOrder limit draft.first draft.continuations found ++ draft.limitErrors limit := by
  have unseen : found.toList.any (isLate [card]) = false := by
    apply List.any_eq_false.mpr
    intro error member
    rw [earlier error (Option.mem_toList.mp member)]
    exact Bool.false_ne_true
  have same : ∀ cards,
      found.toList.any (isLate (cards ++ [card])) = found.toList.any (isLate cards) := by
    intro cards
    cases found with
    | none => rfl
    | some error =>
      rw [Option.toList_some, List.any_cons, List.any_cons, isLate_append, earlier error rfl,
        Bool.or_false]
      rfl
  cases limit with
  | none => exact (List.append_nil _).symm
  | some limit =>
    have size : (draft.continuations ++ [card]).length = draft.continuations.length + 1 :=
      List.length_append
    have added : draft.limitErrors (some limit) =
        if draft.continuations.length = limit.toNat then
          [.tooManyContinuations draft.first.line limit]
        else [] := rfl
    rw [added]
    rcases Nat.lt_trichotomy draft.continuations.length limit.toNat with below | here | above
    · rw [inOrder_within (by omega), inOrder_within (Nat.le_of_lt below),
        if_neg (Nat.ne_of_lt below), List.append_nil]
    · have rest : (draft.continuations ++ [card]).drop limit.toNat = [card] := List.drop_left' here
      rw [inOrder_beyond (by omega), inOrder_within (Nat.le_of_eq here), rest, unseen,
        if_neg Bool.false_ne_true, if_pos here]
    · rw [inOrder_beyond (by omega), inOrder_beyond above,
        List.drop_append_of_le_length (Nat.le_of_lt above), same, if_neg (Nat.ne_of_gt above),
        List.append_nil]

theorem inOrder_some {error : LexError} (limit : Option UInt64)
    (last : ∀ count, continuations.drop count ≠ [] →
      isLate (continuations.drop count) error = true) :
    inOrder limit first continuations (some error) =
      inOrder limit first continuations none ++ [error] := by
  cases limit with
  | none => rfl
  | some limit =>
    by_cases within : continuations.length ≤ limit.toNat
    · rw [inOrder_within within, inOrder_within within]
      rfl
    · have beyond := Nat.lt_of_not_le within
      have late : isLate (continuations.drop limit.toNat) error = true := by
        apply last
        intro none
        exact within (List.drop_eq_nil_iff.mp none)
      rw [inOrder_beyond beyond, inOrder_beyond beyond, Option.toList_some, List.any_cons, late,
        Bool.true_or, if_pos rfl, Option.toList_none, List.any_nil, if_neg Bool.false_ne_true]
      rfl

theorem filter_inOrder (limit : Option UInt64) (first : Card) (continuations : List Card)
    {found : Option LexError} (scanning : ∀ error, found = some error → error.isScanning = true) :
    (inOrder limit first continuations found).filter isScanning = found.toList := by
  have kept : found.toList.filter isScanning = found.toList := by
    apply List.filter_eq_self.mpr
    intro error member
    exact scanning error (Option.mem_toList.mp member)
  cases limit with
  | none => exact kept
  | some limit =>
    by_cases within : continuations.length ≤ limit.toNat
    · rw [inOrder_within within, kept]
    · rw [inOrder_beyond (Nat.lt_of_not_le within)]
      split
      · exact kept
      · rw [List.filter_append, kept]
        exact List.append_nil _

end LexError

theorem Card.stray_line {card : Card} {offset : Nat} {ch : Char} {position : Position}
    (member : .stray ch position ∈ card.entriesFrom offset) : position.line = card.line := by
  obtain ⟨before, c, rest, -, -, here⟩ := exists_front_of_mem_entries member
  have place := congrArg Entry.position here
  rw [Entry.front_position] at place
  have spot : position = (card.placeOf offset).right before.length := place
  rw [spot]
  rfl

theorem Draft.lastCard_mem_drop {draft : Draft} {count : Nat}
    (some : draft.continuations.drop count ≠ []) :
    draft.lastCard ∈ draft.continuations.drop count := by
  have last := List.getLast_mem some
  rw [List.getLast_drop] at last
  rwa [Draft.lastCard, List.getLastD_eq_getLast?, List.getLast?_eq_some_getLast, Option.getD_some]

/-- What scanning came to so far: an error on one of the cards if it was stopped, and none else. -/
def Progress.Found (cards : List Card) (found : Option LexError) : Progress → Prop
  | stopped => ∃ ch position, found = some (.strayCharacter ch position) ∧
      ∃ card ∈ cards, position.line = card.line
  | ready | inside _ => found = none

namespace Assembly

/-- The errors so far are those of the cards so far. -/
structure Tallied (limit : Option UInt64) (assembly : Assembly) (found : Option LexError) :
    Prop where
  progress : assembly.progress.Found assembly.draft.cards found
  errors : assembly.draft.errors =
    LexError.inOrder limit assembly.draft.first assembly.draft.continuations found

theorem enter_errors {draft : Draft} {entered : Assembly} {found : List Entry}
    (done : enter draft found = .ok entered) :
    entered.draft.first = draft.first ∧ entered.draft.continuations = draft.continuations ∧
      ((entered.progress ≠ .stopped ∧ entered.draft.errors = draft.errors) ∨
        ∃ ch position, .stray ch position ∈ found ∧ entered.progress = .stopped ∧
          entered.draft.errors = draft.errors ++ [.strayCharacter ch position]) := by
  induction found generalizing draft with
  | nil =>
    cases done
    exact ⟨rfl, rfl, Or.inl ⟨Progress.noConfusion, rfl⟩⟩
  | cons entry found ih =>
    cases entry with
    | token token =>
      obtain ⟨next, added, entering⟩ := Fault.bind_eq_ok.mp done
      obtain rfl := Draft.addToken_eq_ok added
      obtain ⟨first, continuations, outcome⟩ := ih entering
      refine ⟨first, continuations, ?_⟩
      rcases outcome with going | ⟨ch, position, member, stopped, errors⟩
      · exact Or.inl going
      · exact Or.inr ⟨ch, position, List.mem_cons_of_mem _ member, stopped, errors⟩
    | unclosed literal =>
      cases done
      exact ⟨rfl, rfl, Or.inl ⟨Progress.noConfusion, rfl⟩⟩
    | stray ch position =>
      cases done
      exact ⟨rfl, rfl, Or.inr ⟨ch, position, List.mem_cons_self, rfl, rfl⟩⟩

theorem enter_tallied {limit : Option UInt64} {draft : Draft} {entered : Assembly} {card : Card}
    {offset : Nat} (last : draft.lastCard = card)
    (errors : draft.errors = LexError.inOrder limit draft.first draft.continuations none)
    (done : enter draft (card.entriesFrom offset) = .ok entered) :
    entered.draft.first = draft.first ∧ entered.draft.continuations = draft.continuations ∧
      ∃ found, entered.Tallied limit found := by
  obtain ⟨first, continuations, outcome⟩ := enter_errors done
  refine ⟨first, continuations, ?_⟩
  rcases outcome with ⟨going, same⟩ | ⟨ch, position, member, stopped, added⟩
  · refine ⟨none, ?_, by rw [same, first, continuations, errors]⟩
    cases standing : entered.progress with
    | ready => rfl
    | inside literal => rfl
    | stopped => exact absurd standing going
  · have line := Card.stray_line member
    have here : card ∈ entered.draft.cards := by
      obtain ⟨front, same⟩ := draft.cards_eq_append
      have cards : entered.draft.cards = draft.cards := by
        rw [Draft.cards, first, continuations, Draft.cards]
      rw [cards, same, last]
      exact List.mem_append_right _ List.mem_cons_self
    refine ⟨some (.strayCharacter ch position), ?_, ?_⟩
    · rw [stopped]
      exact ⟨ch, position, rfl, card, here, line⟩
    · rw [added, errors, first, continuations]
      symm
      apply LexError.inOrder_some
      intro count some
      have among := Draft.lastCard_mem_drop some
      rw [last] at among
      exact List.any_eq_true.mpr ⟨card, among, beq_iff_eq.mpr line.symm⟩

theorem start_tallied {first : Card} {started : Assembly} (limit : Option UInt64)
    (done : start first = .ok started) :
    started.draft.first = first ∧ started.draft.continuations = [] ∧
      ∃ found, started.Tallied limit found :=
  enter_tallied rfl (LexError.inOrder_nil limit first none).symm done

/-- One more card adds the error of the limit if it is due, and then what is found on the card. -/
theorem join_tallied {options : Options} {assembly joined : Assembly} {card : Card}
    {found : Option LexError} (tallied : assembly.Tallied options.maxContinuations found)
    (lines : Ascending (assembly.draft.cards ++ [card]))
    (done : assembly.join options card = .ok joined) :
    joined.draft.first = assembly.draft.first ∧
      joined.draft.continuations = assembly.draft.continuations ++ [card] ∧
      ∃ found, joined.Tallied options.maxContinuations found := by
  obtain ⟨draft, extended, done⟩ := Fault.bind_eq_ok.mp done
  obtain rfl := Draft.join_eq_ok extended
  have last : (assembly.draft.extend options.maxContinuations card).lastCard = card :=
    assembly.draft.lastCard_addCard card
  have extended : ∀ found, (∀ error, found = some error → LexError.isLate [card] error = false) →
      assembly.draft.errors = LexError.inOrder options.maxContinuations assembly.draft.first
        assembly.draft.continuations found →
      assembly.draft.errors ++ assembly.draft.limitErrors options.maxContinuations =
        LexError.inOrder options.maxContinuations assembly.draft.first
          (assembly.draft.continuations ++ [card]) found := by
    intro found earlier errors
    rw [LexError.inOrder_concat _ _ earlier, errors]
  have errors := tallied.errors
  have progress := tallied.progress
  cases standing : assembly.progress with
  | ready =>
    simp only [standing] at done progress
    obtain rfl := progress
    exact enter_tallied last (extended none (by simp) errors) done
  | stopped =>
    simp only [standing] at done progress
    cases done
    obtain ⟨ch, position, rfl, earlier, member, line⟩ := progress
    have below :=
      (List.pairwise_append.mp lines).2.2 earlier member card (List.mem_singleton.mpr rfl)
    have unseen : LexError.isLate [card] (.strayCharacter ch position) = false := by
      simp [LexError.isLate, line, Nat.ne_of_gt below]
    refine ⟨rfl, rfl, some (.strayCharacter ch position), ?_, ?_⟩
    · exact ⟨ch, position, rfl, earlier, List.mem_append_left _ member, line⟩
    · apply extended _ _ errors
      intro error same
      rw [← Option.some.inj same, unseen]
  | inside literal =>
    simp only [standing] at done progress
    obtain rfl := progress
    have due := extended none (by simp) errors
    rcases literal.resume_cases card.body with ⟨n, -, -, resumed⟩ | ⟨-, resumed⟩
    · simp only [resumed] at done
      obtain ⟨next, added, entering⟩ := Fault.bind_eq_ok.mp done
      obtain rfl := Draft.addToken_eq_ok added
      refine enter_tallied ?_ ?_ entering
      · exact last
      · exact due
    · simp only [resumed] at done
      cases done
      exact ⟨rfl, rfl, none, rfl, due⟩

theorem joinAll_tallied {options : Options} {assembly joined : Assembly} {cards : List Card}
    {found : Option LexError} (tallied : assembly.Tallied options.maxContinuations found)
    (lines : Ascending (assembly.draft.cards ++ cards))
    (done : assembly.joinAll options cards = .ok joined) :
    joined.draft.first = assembly.draft.first ∧
      joined.draft.continuations = assembly.draft.continuations ++ cards ∧
      ∃ found, joined.Tallied options.maxContinuations found := by
  induction cards generalizing assembly found with
  | nil =>
    cases done
    exact ⟨rfl, (List.append_nil _).symm, found, tallied⟩
  | cons card cards ih =>
    obtain ⟨next, first, rest⟩ := Fault.bind_eq_ok.mp done
    rw [List.append_cons] at lines
    obtain ⟨start, more, further, tally⟩ :=
      join_tallied tallied (List.pairwise_append.mp lines).1 first
    have cardsOf : next.draft.cards = assembly.draft.cards ++ [card] := by
      rw [Draft.cards, start, more]
      rfl
    obtain ⟨start', more', result⟩ := ih tally (cardsOf ▸ lines) rest
    exact ⟨start'.trans start, by rw [more', more, List.append_assoc]; rfl, result⟩

theorem finish_tallied {limit : Option UInt64} {assembly : Assembly} {statement : Statement}
    {found : Option LexError} (tallied : assembly.Tallied limit found)
    (done : assembly.finish = .ok statement) :
    statement.first = assembly.draft.first ∧
      statement.continuations = assembly.draft.continuations ∧
      ∃ found, (∀ error, found = some error → error.isScanning = true) ∧
        statement.errors = LexError.inOrder limit assembly.draft.first
          assembly.draft.continuations found := by
  have errors := tallied.errors
  have progress := tallied.progress
  cases standing : assembly.progress with
  | ready =>
    simp only [finish, standing] at done progress
    obtain rfl := progress
    cases done
    exact ⟨rfl, rfl, none, by simp, errors⟩
  | stopped =>
    simp only [finish, standing] at done progress
    obtain ⟨ch, position, rfl, -⟩ := progress
    cases done
    refine ⟨rfl, rfl, _, ?_, errors⟩
    intro error same
    cases same
    rfl
  | inside literal =>
    simp only [finish, standing] at done progress
    obtain rfl := progress
    by_cases edge : literal.closedAtEdge = true
    · simp only [OpenLiteral.finish, edge, ↓reduceIte] at done
      obtain ⟨next, added, closed⟩ := Fault.bind_eq_ok.mp done
      obtain rfl := Draft.addToken_eq_ok added
      cases closed
      exact ⟨rfl, rfl, none, by simp, errors⟩
    · simp only [OpenLiteral.finish, edge, Bool.false_eq_true, ↓reduceIte] at done
      cases done
      refine ⟨rfl, rfl, some (.unterminatedLiteral literal.text literal.position), ?_, ?_⟩
      · intro error same
        cases same
        rfl
      · rw [LexError.inOrder_some limit (fun _ _ => rfl), ← errors]
        rfl

end Assembly

/-- The errors of a statement are the error of the joined text and that of the limit, in order. -/
theorem Statement.ofCards_errors {options : Options} {first : Card} {continuations : List Card}
    {statement : Statement} (lines : Ascending (first :: continuations))
    (made : ofCards options first continuations = .ok statement) :
    statement.errors = LexError.inOrder options.maxContinuations first continuations
      (Joined.lex (first :: continuations)).error := by
  obtain ⟨started, begun, more⟩ := Fault.bind_eq_ok.mp made
  obtain ⟨joined, done, finished⟩ := Fault.bind_eq_ok.mp more
  obtain ⟨start, none, found, tallied⟩ :=
    Assembly.start_tallied options.maxContinuations begun
  have cards : started.draft.cards = [first] := by rw [Draft.cards, start, none]
  obtain ⟨start', others, found', tallied'⟩ :=
    Assembly.joinAll_tallied tallied (by rw [cards]; exact lines) done
  obtain ⟨-, -, error, scanning, errors⟩ := Assembly.finish_tallied tallied' finished
  have whole : statement.errors =
      LexError.inOrder options.maxContinuations first continuations error := by
    rw [errors, start', start, others, none, List.nil_append]
  have scanned := (ofCards_found made).2
  rw [whole, LexError.filter_inOrder _ _ _ scanning] at scanned
  have same := congrArg List.head? scanned
  rw [Option.head?_toList, Option.head?_toList] at same
  rw [whole, same]

/-- The statement that the joined text of the cards and the limit come to. -/
def Statement.ofJoined (limit : Option UInt64) (first : Card) (continuations : List Card) :
    Statement :=
  { first
    continuations
    tokens := (Joined.lex (first :: continuations)).tokens ++
      [.statementEnd ⟨(continuations.getLastD first).line, trailerColumn⟩]
    errors := LexError.inOrder limit first continuations
      (Joined.lex (first :: continuations)).error }

/-- All of a statement is told from its cards. -/
theorem Statement.ofCards_eq_ofJoined {options : Options} {first : Card}
    {continuations : List Card} (lines : Ascending (first :: continuations))
    (counted : options.maxContinuations ≠ some topLimit) :
    ofCards options first continuations =
      .ok (ofJoined options.maxContinuations first continuations) := by
  obtain ⟨statement, made, cards, -⟩ := ofCards_ordered lines fun _ => counted
  obtain ⟨rfl, rfl⟩ := List.cons.inj cards
  have tokens := (ofCards_found made).1
  have errors := ofCards_errors lines made
  rw [made, ofJoined, ← errors]
  congr 1
  cases statement
  rw [Statement.mk.injEq]
  exact ⟨rfl, rfl, tokens, rfl⟩

end CardDeck
