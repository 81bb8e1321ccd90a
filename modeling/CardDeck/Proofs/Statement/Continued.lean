import CardDeck.Proofs.Statement.Relevant

set_option autoImplicit false

namespace CardDeck

/-- The run with results before its own. -/
def Run.after (run : Run) (results : List Result) : Run :=
  { run with results := results ++ run.results }

@[simp] theorem Run.after_after (run : Run) (first second : List Result) :
    (run.after second).after first = run.after (first ++ second) := by
  simp [Run.after]

namespace Options

theorem relevant_append (options : Options) (front back : List Item) :
    options.relevant (front ++ back) = options.relevant front ++ options.relevant back :=
  List.filter_append _ _

theorem continuations_append {options : Options} {items : List Item}
    (more : (options.continuations items).2 ≠ []) (after : List Item) :
    options.continuations (items ++ after) =
      ((options.continuations items).1, (options.continuations items).2 ++ after) := by
  fun_induction continuations options items with
  | case1 => exact absurd rfl more
  | case2 error items => rfl
  | case3 card items ignored ih => rw [List.cons_append, continuations, if_pos ignored, ih more]
  | case4 card items kept continuation ih =>
    rw [List.cons_append, continuations, if_neg kept, if_pos continuation, ih more]
  | case5 card items kept other =>
    rw [List.cons_append, continuations, if_neg kept, if_neg other]

theorem Opens.append {options : Options} {items rest : List Item} {first : Card}
    {continuations : List Card} (opens : options.Opens items first continuations rest)
    (more : rest ≠ []) (after : List Item) :
    options.Opens (items ++ after) first continuations (rest ++ after) := by
  induction opens with
  | here kept items =>
    have whole := Opens.here kept (items ++ after)
    rw [continuations_append more] at whole
    exact whole
  | passed ignored opens ih => exact Opens.passed ignored (ih more)

/-- Nothing relevant, or one group of cards that may go on. -/
inductive Pending (options : Options) (items : List Item) : Prop where
  | nothing (empty : options.relevant items = [])
  | group (first : Card) (continuations : List Card)
    (whole : options.relevant items = (first :: continuations).map .ok)
    (follow : ∀ card ∈ continuations, card.isContinuation = true)

theorem ascending_of_relevant {options : Options} {items : List Item} {cards : List Card}
    (whole : options.relevant items = cards.map .ok) (lines : Ascending (cardsOf items)) :
    Ascending cards := by
  apply lines.sublist
  rw [← cardsOf_map_ok cards, ← whole]
  exact List.Sublist.filterMap _ List.filter_sublist

theorem exists_opens_append {options : Options} {items : List Item} {first : Card}
    {continuations : List Card}
    (whole : options.relevant items = (first :: continuations).map .ok)
    (follow : ∀ card ∈ continuations, card.isContinuation = true) (after : List Item)
    (ends : ∀ card, (options.relevant after).head? = some (.ok card) →
      card.isContinuation = false) :
    ∃ left, options.Opens (items ++ after) first continuations left ∧
      options.relevant left = options.relevant after := by
  apply exists_opens _ follow ends
  rw [relevant_append, whole]

theorem Opens.error_of_relevant {options : Options} {items rest others : List Item} {first : Card}
    {continuations : List Card} {error : SourceError}
    (opens : options.Opens items first continuations rest)
    (front : options.relevant rest = .error error :: others) :
    ∃ more, rest = .error error :: more := by
  cases rest with
  | nil => cases front
  | cons item rest =>
    cases item with
    | error other =>
      obtain rfl := Except.error.inj (List.cons.inj front).1
      exact ⟨rest, rfl⟩
    | ok card =>
      rw [relevant_of_kept (opens.ends rfl).1] at front
      cases front

end Options

namespace Statements

/-- A group that no error follows gives its statement, and the rest gives the results after it. -/
theorem runItems_of_opens {options : Options} {items rest : List Item} {first : Card}
    {continuations : List Card} {statement : Statement}
    (opens : options.Opens items first continuations rest)
    (lines : Ascending (first :: continuations))
    (counted : options.maxContinuations ≠ some topLimit)
    (made : Statement.ofCards options first continuations = .ok statement)
    (whole : ∀ error more, rest ≠ .error error :: more) :
    runItems options items = (runItems options rest).after [.ok statement] := by
  rcases opens.next_cases lines with ⟨top, -⟩ |
    ⟨-, ⟨error, more, broken, -⟩ | ⟨other, -, next, same, -⟩⟩
  · exact absurd top counted
  · exact absurd broken (whole error more)
  · obtain rfl := Except.ok.inj (same.symm.trans made)
    exact runItems_of_statement next

/-- All statements that something follows are settled, and what is left of the items is pending. -/
theorem runItems_append {options : Options} {items : List Item} (clean : Clean items)
    (lines : Ascending (cardsOf items)) (counted : options.maxContinuations ≠ some topLimit) :
    ∃ (statements : List Statement) (pending : List Item),
      pending <:+ items ∧ options.Pending pending ∧
      ∀ after, runItems options (items ++ after) =
        (runItems options (pending ++ after)).after (statements.map .ok) := by
  induction items, clean using options.clean_induction with
  | nothing items clean empty next =>
    exact ⟨[], items, List.suffix_refl _, .nothing empty, fun _ => rfl⟩
  | group items first continuations rest clean further opens ih =>
    by_cases more : rest = []
    · have whole := opens.relevant
      rw [more] at whole
      have group := Options.Pending.group first continuations
        (whole.trans (List.append_nil _)) opens.follow
      exact ⟨[], items, List.suffix_refl _, group, fun _ => rfl⟩
    · have ascending := opens.ascending lines
      obtain ⟨statement, made, -⟩ := Statement.ofCards_ordered ascending fun _ => counted
      obtain ⟨statements, pending, suffix, open', later⟩ := ih (opens.ascending_rest lines)
      refine ⟨statement :: statements, pending, suffix.trans opens.suffix, open', ?_⟩
      intro after
      have whole : ∀ error others, rest ++ after ≠ .error error :: others := by
        intro error others broken
        obtain ⟨item, rest, rfl⟩ := List.exists_cons_of_ne_nil more
        obtain rfl := (List.cons.inj broken).1
        exact further.ne_error rfl
      rw [runItems_of_opens (opens.append more after) ascending counted made whole, later after]
      rfl

theorem runItems_nil (options : Options) : runItems options [] = { results := [] } :=
  runItems_of_none (by rw [nextItems])

theorem runItems_pending_error {options : Options} {pending : List Item}
    (open' : options.Pending pending) (lines : Ascending (cardsOf pending))
    (counted : options.maxContinuations ≠ some topLimit) (error : SourceError)
    (after : List Item) :
    runItems options (pending ++ .error error :: after) = { results := [.error error] } := by
  cases open' with
  | nothing empty =>
    have same : options.relevant (pending ++ .error error :: after) =
        options.relevant (.error error :: after) := by
      rw [Options.relevant_append, empty, List.nil_append]
    rw [runItems_congr same]
    exact runItems_of_failure rfl
  | group first continuations whole follow =>
    have ascending := Options.ascending_of_relevant whole lines
    obtain ⟨left, opens, rest⟩ := Options.exists_opens_append whole follow
      (.error error :: after) (by intro card front; cases front)
    rcases opens.next_cases ascending with ⟨top, -⟩ | ⟨-, ⟨other, more, rfl, next⟩ | ⟨_, none, -⟩⟩
    · exact absurd top counted
    · obtain rfl := Except.error.inj (List.cons.inj rest).1
      exact runItems_of_failure next
    · obtain ⟨more, same⟩ := opens.error_of_relevant rest
      exact absurd same (none error more)

theorem runItems_pending_fresh {options : Options} {pending after : List Item}
    (open' : options.Pending pending) (lines : Ascending (cardsOf pending))
    (counted : options.maxContinuations ≠ some topLimit)
    (fresh : ∀ item, (options.relevant after).head? = some item → continues item = false) :
    runItems options (pending ++ after) =
      (runItems options after).after (runItems options pending).results := by
  cases open' with
  | nothing empty =>
    have same : options.relevant (pending ++ after) = options.relevant after := by
      rw [Options.relevant_append, empty, List.nil_append]
    have none : runItems options pending = runItems options [] := runItems_congr empty
    rw [runItems_congr same, none, runItems_nil]
    rfl
  | group first continuations whole follow =>
    have ascending := Options.ascending_of_relevant whole lines
    obtain ⟨statement, made, -⟩ := Statement.ofCards_ordered ascending fun _ => counted
    have closed : ∀ more, (∀ item, (options.relevant more).head? = some item →
        continues item = false) →
        runItems options (pending ++ more) = (runItems options more).after [.ok statement] := by
      intro more ends
      obtain ⟨left, opens, rest⟩ := Options.exists_opens_append whole follow
        more fun card front => ends (.ok card) front
      rw [← runItems_congr rest]
      apply runItems_of_opens opens ascending counted made
      rintro error others rfl
      have broken := ends (.error error) (by rw [← rest]; rfl)
      cases broken
    have alone := closed [] (by intro item front; cases front)
    rw [List.append_nil, runItems_nil] at alone
    rw [closed after fresh, alone]
    rfl

theorem runItems_append_fresh {options : Options} {items after : List Item} (clean : Clean items)
    (lines : Ascending (cardsOf items)) (counted : options.maxContinuations ≠ some topLimit)
    (fresh : ∀ item, (options.relevant after).head? = some item → continues item = false) :
    runItems options (items ++ after) =
      (runItems options after).after (runItems options items).results := by
  obtain ⟨statements, pending, suffix, open', append⟩ := runItems_append clean lines counted
  have ascending := lines.sublist (List.Sublist.filterMap _ suffix.sublist)
  have alone := append []
  rw [List.append_nil, List.append_nil] at alone
  rw [append after, runItems_pending_fresh open' ascending counted fresh, alone,
    Run.after_after]
  rfl

end Statements

end CardDeck
