import CardDeck.Proofs.Statement.Items
import CardDeck.Proofs.Statement.Order

/-!
Groups: how the items of a feed fall into statements.

At the front of the items there is a first card, then the cards that continue it, then the rest;
ignored cards stand anywhere between them and are not seen. All that one call for a statement can
do is told from its group, with `relevant_cases` and `Opens.next_cases`.
-/

set_option autoImplicit false

namespace CardDeck

/-- The items without the ignored cards. -/
def Options.relevant (options : Options) (items : List Item) : List Item :=
  items.filter fun item => !options.ignoresItem item

/-- The cards among the items. -/
def cardsOf (items : List Item) : List Card := items.filterMap Except.toOption

/-- There is no error among the items. -/
def Clean (items : List Item) : Prop := ∀ error, .error error ∉ items

namespace Clean

theorem suffix {items rest : List Item} (clean : Clean items) (suffix : rest <:+ items) :
    Clean rest := by
  intro error member
  exact clean error (suffix.subset member)

theorem nil : Clean [] := fun _ => List.not_mem_nil

theorem append {front back : List Item} (clean : Clean front) (further : Clean back) :
    Clean (front ++ back) := by
  intro error member
  rcases List.mem_append.mp member with before | behind
  · exact clean error before
  · exact further error behind

theorem relevant {options : Options} {items : List Item} (clean : Clean items) :
    Clean (options.relevant items) := by
  intro error member
  exact clean error (List.mem_filter.mp member).1

theorem of_ignored {options : Options} {item : Item} (ignored : options.ignoresItem item = true) :
    Clean [item] := by
  intro error member
  rw [← List.mem_singleton.mp member] at ignored
  cases ignored

theorem ne_error {items rest : List Item} {error : SourceError} (clean : Clean items) :
    items ≠ .error error :: rest := by
  intro same
  apply clean error
  rw [same]
  exact List.mem_cons_self

theorem map_ok (cards : List Card) : Clean (cards.map .ok) := by
  intro error member
  obtain ⟨card, -, same⟩ := List.mem_map.mp member
  cases same

theorem head? {items : List Item} (clean : Clean items) :
    items.head? = (cardsOf items).head?.map .ok := by
  cases items with
  | nil => rfl
  | cons item items =>
    cases item with
    | error error => exact absurd rfl clean.ne_error
    | ok card => rfl

end Clean

namespace Options

theorem relevant_of_ignored {options : Options} {card : Card}
    (ignored : options.ignores card = true) (items : List Item) :
    options.relevant (.ok card :: items) = options.relevant items := by
  apply List.filter_cons_of_neg
  rw [ignoresItem, ignored]
  exact Bool.false_ne_true

theorem relevant_of_kept {options : Options} {card : Card}
    (kept : options.ignores card = false) (items : List Item) :
    options.relevant (.ok card :: items) = .ok card :: options.relevant items := by
  apply List.filter_cons_of_pos
  rw [ignoresItem, kept]
  rfl

theorem relevant_error (options : Options) (error : SourceError) (items : List Item) :
    options.relevant (.error error :: items) = .error error :: options.relevant items := rfl

theorem relevant_continuations (options : Options) (items : List Item) :
    options.relevant items =
      (options.continuations items).1.map .ok ++
        options.relevant (options.continuations items).2 := by
  fun_induction continuations options items with
  | case1 => rfl
  | case2 error items => rfl
  | case3 card items ignored ih => rw [relevant_of_ignored ignored, ih]
  | case4 card items kept continuation ih =>
    rw [relevant_of_kept (Bool.eq_false_iff.mpr kept), ih]
    rfl
  | case5 card items kept other => rfl

theorem continuations_follow (options : Options) (items : List Item) :
    ∀ card ∈ (options.continuations items).1, card.isContinuation = true := by
  fun_induction continuations options items with
  | case1 | case2 | case5 =>
    intro card member
    cases member
  | case3 card items ignored ih => exact ih
  | case4 card items kept continuation ih =>
    intro other member
    rcases List.mem_cons.mp member with here | later
    · rw [here]
      exact continuation
    · exact ih other later

/-- A card that is left after the continuations is relevant, and starts a statement of its own. -/
theorem continuations_end {options : Options} {items more : List Item} {card : Card}
    (left : (options.continuations items).2 = .ok card :: more) :
    options.ignores card = false ∧ card.isContinuation = false := by
  fun_induction continuations options items with
  | case1 => cases left
  | case2 error items => cases left
  | case3 other items ignored ih => exact ih left
  | case4 other items kept continuation ih => exact ih left
  | case5 other items kept fresh =>
    cases left
    exact ⟨Bool.eq_false_iff.mpr kept, Bool.eq_false_iff.mpr fresh⟩

theorem continuations_suffix (options : Options) (items : List Item) :
    (options.continuations items).2 <:+ items := by
  fun_induction continuations options items with
  | case1 => exact List.suffix_refl _
  | case2 error items => exact List.suffix_refl _
  | case3 card items ignored ih => exact ih.trans (List.suffix_cons _ _)
  | case4 card items kept continuation ih => exact ih.trans (List.suffix_cons _ _)
  | case5 card items kept other => exact List.suffix_refl _

theorem continuations_append_error (options : Options) (items : List Item) (error : SourceError)
    (after : List Item) :
    options.continuations (items ++ .error error :: after) =
      ((options.continuations items).1,
        (options.continuations items).2 ++ .error error :: after) := by
  fun_induction continuations options items with
  | case1 => rfl
  | case2 other items => rfl
  | case3 card items ignored ih =>
    rw [List.cons_append, continuations, if_pos ignored, ih]
  | case4 card items kept continuation ih =>
    rw [List.cons_append, continuations, if_neg kept, if_pos continuation, ih]
  | case5 card items kept other =>
    rw [List.cons_append, continuations, if_neg kept, if_neg other]

/-- The items begin with the group of a first card and its continuations, and the rest is left. -/
inductive Opens (options : Options) : List Item → Card → List Card → List Item → Prop where
  | here {first : Card} (kept : options.ignores first = false) (items : List Item) :
    Opens options (.ok first :: items) first (options.continuations items).1
      (options.continuations items).2
  | passed {card first : Card} {items rest : List Item} {continuations : List Card}
    (ignored : options.ignores card = true) (opens : Opens options items first continuations rest) :
    Opens options (.ok card :: items) first continuations rest

namespace Opens

variable {options : Options} {items rest : List Item} {first : Card} {continuations : List Card}

theorem relevant (opens : options.Opens items first continuations rest) :
    options.relevant items = (first :: continuations).map .ok ++ options.relevant rest := by
  induction opens with
  | here kept items =>
    rw [relevant_of_kept kept, options.relevant_continuations items]
    rfl
  | passed ignored opens ih => rw [relevant_of_ignored ignored, ih]

theorem follow (opens : options.Opens items first continuations rest) :
    ∀ card ∈ continuations, card.isContinuation = true := by
  induction opens with
  | here kept items => exact options.continuations_follow items
  | passed ignored opens ih => exact ih

theorem ends (opens : options.Opens items first continuations rest) {card : Card}
    {more : List Item} (left : rest = .ok card :: more) :
    options.ignores card = false ∧ card.isContinuation = false := by
  induction opens with
  | here kept items => exact continuations_end left
  | passed ignored opens ih => exact ih left

theorem suffix (opens : options.Opens items first continuations rest) : rest <:+ items := by
  induction opens with
  | here kept items => exact (options.continuations_suffix items).trans (List.suffix_cons _ _)
  | passed ignored opens ih => exact ih.trans (List.suffix_cons _ _)

theorem length_lt (opens : options.Opens items first continuations rest) :
    rest.length < items.length := by
  induction opens with
  | here kept items => exact Nat.lt_succ_of_le (options.continuations_length_le items)
  | passed ignored opens ih => exact Nat.lt_succ_of_lt ih

theorem append_error (opens : options.Opens items first continuations rest) (error : SourceError)
    (after : List Item) :
    options.Opens (items ++ .error error :: after) first continuations
      (rest ++ .error error :: after) := by
  induction opens with
  | here kept items =>
    have whole := Opens.here kept (items ++ .error error :: after)
    rw [continuations_append_error] at whole
    exact whole
  | passed ignored opens ih => exact Opens.passed ignored ih

/-- A call for the next statement joins the cards of the group. -/
theorem nextItems (opens : options.Opens items first continuations rest) :
    Statements.nextItems options items = (do
      let started ← Assembly.start first
      let joined ← started.joinAll options continuations
      return some (← joined.closeBefore rest)) := by
  induction opens with
  | here kept items =>
    rw [Statements.nextItems, kept, if_neg Bool.false_ne_true]
    simp only [Assembly.gatherItems, bind_assoc]
  | passed ignored opens ih => rw [Statements.nextItems, if_pos ignored, ih]

theorem fresh (opens : options.Opens items first continuations rest) {card : Card}
    (front : (options.relevant rest).head? = some (.ok card)) : card.isContinuation = false := by
  cases rest with
  | nil => cases front
  | cons item more =>
    cases item with
    | error error => cases front
    | ok other =>
      obtain ⟨kept, fresh⟩ := opens.ends rfl
      rw [relevant_of_kept kept] at front
      cases front
      exact fresh

theorem relevant_ne_nil (opens : options.Opens items first continuations rest)
    (clean : Clean rest) (more : rest ≠ []) : options.relevant rest ≠ [] := by
  cases rest with
  | nil => exact absurd rfl more
  | cons item rest =>
    cases item with
    | error error => exact absurd rfl clean.ne_error
    | ok card =>
      rw [relevant_of_kept (opens.ends rfl).1]
      exact List.cons_ne_nil _ _

end Opens

/-- The items hold nothing relevant, or an error is next, or a group is. -/
theorem relevant_cases (options : Options) (items : List Item) :
    (options.relevant items = [] ∧ Statements.nextItems options items = .ok none) ∨
    (∃ error rest, options.relevant items = .error error :: options.relevant rest ∧
      rest <:+ items ∧ Statements.nextItems options items = .ok (some (.error error, rest))) ∨
    (∃ first continuations rest, options.Opens items first continuations rest) := by
  induction items with
  | nil => exact Or.inl ⟨rfl, rfl⟩
  | cons item items ih =>
    cases item with
    | error error => exact Or.inr (Or.inl ⟨error, items, rfl, List.suffix_cons _ _, rfl⟩)
    | ok card =>
      cases ignored : options.ignores card with
      | true =>
        have passed : Statements.nextItems options (.ok card :: items) =
            Statements.nextItems options items := by
          rw [Statements.nextItems, if_pos ignored]
        rw [relevant_of_ignored ignored, passed]
        rcases ih with nothing | ⟨error, rest, front, suffix, next⟩ |
          ⟨first, continuations, rest, opens⟩
        · exact Or.inl nothing
        · exact Or.inr (Or.inl ⟨error, rest, front, suffix.trans (List.suffix_cons _ _), next⟩)
        · exact Or.inr (Or.inr ⟨first, continuations, rest, Opens.passed ignored opens⟩)
      | false => exact Or.inr (Or.inr ⟨card, _, _, Opens.here ignored items⟩)

/-- What holds of items because it holds of the rest after each group holds of all items. -/
@[elab_as_elim]
theorem group_induction (options : Options) {motive : List Item → Prop}
    (nothing : ∀ items, options.relevant items = [] →
      Statements.nextItems options items = .ok none → motive items)
    (failed : ∀ items error rest,
      options.relevant items = .error error :: options.relevant rest → rest <:+ items →
      Statements.nextItems options items = .ok (some (.error error, rest)) → motive items)
    (group : ∀ items first continuations rest,
      options.Opens items first continuations rest → motive rest → motive items)
    (items : List Item) : motive items := by
  induction length : items.length using Nat.strongRecOn generalizing items with
  | ind size ih =>
    rcases options.relevant_cases items with ⟨empty, next⟩ | ⟨error, rest, front, suffix, next⟩ |
      ⟨first, continuations, rest, opens⟩
    · exact nothing items empty next
    · exact failed items error rest front suffix next
    · apply group items first continuations rest opens
      exact ih rest.length (by rw [← length]; exact opens.length_lt) rest rfl

@[elab_as_elim]
theorem clean_induction (options : Options) {motive : (items : List Item) → Clean items → Prop}
    (nothing : ∀ items clean, options.relevant items = [] →
      Statements.nextItems options items = .ok none → motive items clean)
    (group : ∀ items first continuations rest clean, (further : Clean rest) →
      options.Opens items first continuations rest → motive rest further → motive items clean)
    (items : List Item) (clean : Clean items) : motive items clean := by
  induction items using options.group_induction with
  | nothing items empty next => exact nothing items clean empty next
  | failed items error rest front => exact absurd front clean.relevant.ne_error
  | group items first continuations rest opens ih =>
    have further := clean.suffix opens.suffix
    exact group items first continuations rest clean further opens (ih further)

/-- Continuations end where something else follows, so that there is one way to cut them off. -/
theorem follow_unique {cards others : List Card} {rest left : List Item}
    (same : cards.map .ok ++ rest = others.map .ok ++ left)
    (follow : ∀ card ∈ cards, card.isContinuation = true)
    (followed : ∀ card ∈ others, card.isContinuation = true)
    (ends : ∀ card, rest.head? = some (.ok card) → card.isContinuation = false)
    (ended : ∀ card, left.head? = some (.ok card) → card.isContinuation = false) :
    cards = others ∧ rest = left := by
  induction cards generalizing others with
  | nil =>
    cases others with
    | nil => exact ⟨rfl, same⟩
    | cons other others =>
      rw [List.map_nil, List.nil_append] at same
      have fresh := ends other (by rw [same]; rfl)
      rw [followed other List.mem_cons_self] at fresh
      cases fresh
  | cons card cards ih =>
    cases others with
    | nil =>
      rw [List.map_nil, List.nil_append] at same
      have fresh := ended card (by rw [← same]; rfl)
      rw [follow card List.mem_cons_self] at fresh
      cases fresh
    | cons other others =>
      rw [List.map_cons, List.map_cons, List.cons_append, List.cons_append] at same
      obtain ⟨front, back⟩ := List.cons.inj same
      obtain ⟨tails, rests⟩ := ih back
        (fun card member => follow card (List.mem_cons_of_mem _ member))
        (fun card member => followed card (List.mem_cons_of_mem _ member))
      exact ⟨by rw [Except.ok.inj front, tails], rests⟩

theorem exists_opens {options : Options} {items rest : List Item} {first : Card}
    {continuations : List Card}
    (front : options.relevant items = (first :: continuations).map .ok ++ rest)
    (follow : ∀ card ∈ continuations, card.isContinuation = true)
    (ends : ∀ card, rest.head? = some (.ok card) → card.isContinuation = false) :
    ∃ left, options.Opens items first continuations left ∧ options.relevant left = rest := by
  rcases options.relevant_cases items with ⟨nothing, -⟩ | ⟨error, left, failed, -⟩ |
    ⟨card, others, left, opens⟩
  · rw [nothing] at front
    cases front
  · rw [failed] at front
    cases front
  · have whole := opens.relevant
    rw [front, List.map_cons, List.map_cons, List.cons_append, List.cons_append] at whole
    obtain ⟨start, back⟩ := List.cons.inj whole
    obtain ⟨same, rests⟩ := follow_unique back follow opens.follow ends (fun _ => opens.fresh)
    rw [Except.ok.inj start, same]
    exact ⟨left, opens, rests.symm⟩

end Options

theorem cardsOf_map_ok (cards : List Card) : cardsOf (cards.map .ok) = cards := by
  rw [cardsOf, List.filterMap_map]
  exact List.filterMap_some

theorem cardsOf_append (front back : List Item) :
    cardsOf (front ++ back) = cardsOf front ++ cardsOf back := List.filterMap_append

theorem cardsOf_relevant (options : Options) (items : List Item) :
    cardsOf (options.relevant items) =
      (cardsOf items).filter fun card => !options.ignores card := by
  induction items with
  | nil => rfl
  | cons item items ih =>
    cases item with
    | error error => exact ih
    | ok card =>
      have front : cardsOf (.ok card :: items) = card :: cardsOf items := rfl
      rw [front, List.filter_cons]
      cases ignored : options.ignores card with
      | true =>
        rw [Options.relevant_of_ignored ignored]
        exact ih
      | false =>
        rw [Options.relevant_of_kept ignored]
        exact congrArg (card :: ·) ih

theorem Options.head?_relevant_map_ok (options : Options) (cards : List Card) :
    (options.relevant (cards.map .ok)).head? =
      (cards.find? fun card => !options.ignores card).map .ok := by
  rw [relevant, List.filter_map, List.head?_map, List.head?_filter]
  rfl

theorem Ascending.sublist {cards some : List Card} (lines : Ascending cards)
    (part : some.Sublist cards) : Ascending some := List.Pairwise.sublist part lines

namespace Options.Opens

variable {options : Options} {items rest : List Item} {first : Card} {continuations : List Card}

theorem ascending (opens : options.Opens items first continuations rest)
    (lines : Ascending (cardsOf items)) : Ascending (first :: continuations) := by
  apply lines.sublist
  have part : (cardsOf (options.relevant items)).Sublist (cardsOf items) :=
    List.Sublist.filterMap _ List.filter_sublist
  rw [opens.relevant, cardsOf_append, cardsOf_map_ok] at part
  exact (List.sublist_append_left _ _).trans part

theorem ascending_rest (opens : options.Opens items first continuations rest)
    (lines : Ascending (cardsOf items)) : Ascending (cardsOf rest) :=
  lines.sublist (List.Sublist.filterMap _ opens.suffix.sublist)

/-- All that a call for the next statement can come to when a group is next. -/
theorem next_cases (opens : options.Opens items first continuations rest)
    (lines : Ascending (first :: continuations)) :
    (options.maxContinuations = some topLimit ∧ continuations ≠ [] ∧
      Statements.nextItems options items = .error .limitOverflow) ∨
    ((continuations ≠ [] → options.maxContinuations ≠ some topLimit) ∧
      ((∃ error more, rest = .error error :: more ∧
        Statements.nextItems options items = .ok (some (.error error, more))) ∨
      (∃ statement, (∀ error more, rest ≠ .error error :: more) ∧
        Statements.nextItems options items = .ok (some (.ok statement, rest)) ∧
        Statement.ofCards options first continuations = .ok statement ∧
        statement.cards = first :: continuations ∧ statement.Ordered))) := by
  by_cases counted : continuations ≠ [] → options.maxContinuations ≠ some topLimit
  · right
    refine ⟨counted, ?_⟩
    obtain ⟨statement, made, cards, ordered⟩ := Statement.ofCards_ordered lines counted
    obtain ⟨started, begun, more⟩ := Fault.bind_eq_ok.mp made
    obtain ⟨joined, done, finished⟩ := Fault.bind_eq_ok.mp more
    have next := opens.nextItems
    rw [begun, Fault.ok_bind, done, Fault.ok_bind] at next
    by_cases broken : ∃ error more, rest = .error error :: more
    · left
      obtain ⟨error, more, same⟩ := broken
      rw [same, Assembly.closeBefore] at next
      exact ⟨error, more, same, next⟩
    · right
      have whole : ∀ error more, rest ≠ .error error :: more := by
        intro error more same
        exact broken ⟨error, more, same⟩
      rw [Assembly.closeBefore_of_ne whole, finished] at next
      exact ⟨statement, whole, next, made, cards, ordered⟩
  · left
    obtain ⟨joined, top⟩ := Classical.not_imp.mp counted
    have limit := Classical.not_not.mp top
    refine ⟨limit, joined, ?_⟩
    obtain ⟨card, cards, same⟩ := List.exists_cons_of_ne_nil joined
    obtain ⟨started, begun, -⟩ := Assembly.start_ordered first
    rw [opens.nextItems, begun, Fault.ok_bind, same, Assembly.joinAll_top limit]
    rfl

end Options.Opens

end CardDeck
