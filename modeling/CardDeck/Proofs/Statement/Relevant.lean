import CardDeck.Proofs.Statement.Groups

set_option autoImplicit false

namespace CardDeck

namespace Options

def keepAll (options : Options) : Options := { options with skipBlank := false, comments := false }

@[simp] theorem ignores_keepAll (options : Options) (card : Card) :
    options.keepAll.ignores card = false := ignores_eq_false _ card rfl rfl

theorem continuations_keepAll (options : Options) (items : List Item) :
    options.keepAll.continuations (options.relevant items) =
      ((options.continuations items).1, options.relevant (options.continuations items).2) := by
  fun_induction continuations options items with
  | case1 => rfl
  | case2 error items => rfl
  | case3 card items ignored ih => rw [relevant_of_ignored ignored, ih]
  | case4 card items kept continuation ih =>
    rw [relevant_of_kept (Bool.eq_false_iff.mpr kept), continuations, ignores_keepAll,
      if_neg Bool.false_ne_true, if_pos continuation, ih]
  | case5 card items kept other =>
    rw [relevant_of_kept (Bool.eq_false_iff.mpr kept), continuations, ignores_keepAll,
      if_neg Bool.false_ne_true, if_neg other]

/-- A result with the items after it, of which the relevant ones are left. -/
def sift (options : Options) (given : Result × List Item) : Result × List Item :=
  (given.1, options.relevant given.2)

end Options

namespace Assembly

theorem joinAll_keepAll (options : Options) (assembly : Assembly) (cards : List Card) :
    assembly.joinAll options.keepAll cards = assembly.joinAll options cards := by
  induction cards generalizing assembly with
  | nil => rfl
  | cons card cards ih =>
    have same : assembly.join options.keepAll card = assembly.join options card := rfl
    simp only [joinAll, same, ih]

theorem closeBefore_relevant (options : Options) (assembly : Assembly) (items : List Item) :
    assembly.closeBefore (options.relevant (options.continuations items).2) =
      (assembly.closeBefore (options.continuations items).2).map options.sift := by
  cases left : (options.continuations items).2 with
  | nil =>
    show assembly.closeBefore [] = (assembly.closeBefore []).map options.sift
    rw [closeBefore]
    · cases assembly.finish <;> rfl
    · intro error more same
      cases same
  | cons item more =>
    cases item with
    | error error => rfl
    | ok card =>
      have plain : ∀ rest error more, (.ok card :: rest : List Item) ≠ .error error :: more := by
        intro rest error more same
        cases same
      rw [Options.relevant_of_kept (Options.continuations_end left).1,
        closeBefore_of_ne (plain _), closeBefore_of_ne (plain _)]
      cases assembly.finish with
      | error fault => rfl
      | ok statement =>
        show Except.ok _ = Except.ok (options.sift _)
        rw [Options.sift, Options.relevant_of_kept (Options.continuations_end left).1]

theorem gatherItems_keepAll (options : Options) (assembly : Assembly) (items : List Item) :
    assembly.gatherItems options.keepAll (options.relevant items) =
      (assembly.gatherItems options items).map options.sift := by
  rw [gatherItems, gatherItems, options.continuations_keepAll, joinAll_keepAll]
  cases assembly.joinAll options (options.continuations items).1 with
  | error fault => rfl
  | ok joined => exact closeBefore_relevant options joined items

end Assembly

namespace Statements

/-- The next result comes from the relevant items, and leaves the same of them. -/
theorem nextItems_keepAll (options : Options) (items : List Item) :
    nextItems options.keepAll (options.relevant items) =
      (nextItems options items).map (Option.map options.sift) := by
  fun_induction nextItems options items with
  | case1 => rfl
  | case2 error items => rfl
  | case3 first items ignored ih => rw [Options.relevant_of_ignored ignored, ih]
  | case4 first items kept =>
    rw [Options.relevant_of_kept (Bool.eq_false_iff.mpr kept), nextItems, Options.ignores_keepAll,
      if_neg Bool.false_ne_true]
    cases Assembly.start first with
    | error fault => rfl
    | ok started =>
      rw [Fault.ok_bind, Fault.ok_bind, Assembly.gatherItems_keepAll]
      cases started.gatherItems options items <;> rfl

theorem runItems_keepAll (options : Options) (items : List Item) :
    runItems options.keepAll (options.relevant items) = runItems options items := by
  fun_induction runItems options items with
  | case1 items fault given =>
    apply runItems_of_error
    rw [nextItems_keepAll, given]
    rfl
  | case2 items given =>
    apply runItems_of_none
    rw [nextItems_keepAll, given]
    rfl
  | case3 items error rest given =>
    have failed : nextItems options.keepAll (options.relevant items) =
        .ok (some (.error error, options.relevant rest)) := by
      rw [nextItems_keepAll, given]
      rfl
    exact runItems_of_failure failed
  | case4 items statement rest given later ih =>
    have next : nextItems options.keepAll (options.relevant items) =
        .ok (some (.ok statement, options.relevant rest)) := by
      rw [nextItems_keepAll, given]
      rfl
    rw [runItems_of_statement next, ih]

theorem runItems_congr {options : Options} {items others : List Item}
    (same : options.relevant items = options.relevant others) :
    runItems options items = runItems options others := by
  rw [← runItems_keepAll, same, runItems_keepAll]

/-- The same sequence over the relevant items, with options that ignore no card. -/
structure Sifted (statements sifted : Statements) : Prop where
  options : sifted.options = statements.options.keepAll
  finished : sifted.finished = statements.finished
  items : sifted.cards.items = statements.options.relevant statements.cards.items

/-- A call gives the same in both, and they are the same afterwards. -/
theorem Sifted.next {statements sifted : Statements} (same : Sifted statements sifted) :
    (∃ fault, statements.next = .error fault ∧ sifted.next = .error fault) ∨
    ∃ step other, statements.next = .ok step ∧ sifted.next = .ok other ∧
      other.result = step.result ∧ Sifted step.rest other.rest := by
  by_cases finished : statements.finished = true
  · right
    exact ⟨_, _, next_of_finished finished, next_of_finished (same.finished.trans finished), rfl,
      same⟩
  · have going := Bool.eq_false_iff.mpr finished
    have going' := same.finished.trans going
    have sieved : nextItems sifted.options sifted.cards.items =
        (nextItems statements.options statements.cards.items).map
          (Option.map statements.options.sift) := by
      rw [same.options, same.items, nextItems_keepAll]
    cases given : nextItems statements.options statements.cards.items with
    | error fault =>
      left
      rw [given] at sieved
      exact ⟨fault, next_of_error going given, next_of_error going' sieved⟩
    | ok next =>
      right
      rw [given] at sieved
      cases next with
      | none =>
        obtain ⟨step, done, result, options, further, left⟩ := next_of_none going given
        obtain ⟨other, done', result', options', further', left'⟩ := next_of_none going' sieved
        refine ⟨step, other, done, done', result'.trans result.symm, ?_, ?_, ?_⟩
        · rw [options', options, same.options]
        · rw [further', further]
        · rw [left', left]
          rfl
      | some next =>
        obtain ⟨result, rest⟩ := next
        obtain ⟨step, done, gave, options, further, left⟩ := next_of_some going given
        obtain ⟨other, done', gave', options', further', left'⟩ := next_of_some going' sieved
        refine ⟨step, other, done, done', gave'.trans gave.symm, ?_, ?_, ?_⟩
        · rw [options', options, same.options]
        · rw [further', further]
        · rw [left', left, options]

/-- What the first so many calls give, or the fault of one of them. -/
def answers (statements : Statements) (count : Nat) : Except Fault (List (Option Result)) :=
  (statements.steps count).map (List.map Step.result)

theorem answers_succ (statements : Statements) (count : Nat) :
    statements.answers (count + 1) = statements.next >>= fun step =>
      (step.rest.answers count).map (step.result :: ·) := by
  rw [answers, steps]
  cases statements.next with
  | error fault => rfl
  | ok step =>
    rw [Fault.ok_bind, Fault.ok_bind, answers]
    cases step.rest.steps count <;> rfl

theorem Sifted.answers {statements sifted : Statements} (same : Sifted statements sifted)
    (count : Nat) : sifted.answers count = statements.answers count := by
  induction count generalizing statements sifted with
  | zero => rfl
  | succ count ih =>
    rw [answers_succ, answers_succ]
    rcases same.next with ⟨fault, failed, failed'⟩ | ⟨step, other, done, done', result, rest⟩
    · rw [failed, failed']
    · rw [done, done', Fault.ok_bind, Fault.ok_bind, result, ih rest]

/--
A run is the run over the relevant items under options that ignore no card, with the same fault if
there is one; and so it is for any number of calls.
-/
theorem run_relevant (options : Options) (feed : Feed) :
    (ofFeed { options with skipBlank := false, comments := false }
        (.listed (feed.items.filter fun item => !options.ignoresItem item))).run =
      (ofFeed options feed).run ∧
    ∀ count,
      (ofFeed { options with skipBlank := false, comments := false }
        (.listed (feed.items.filter fun item => !options.ignoresItem item))).answers count =
      (ofFeed options feed).answers count := by
  have sifted : Sifted (ofFeed options feed)
      (ofFeed options.keepAll (.listed (options.relevant feed.items))) :=
    ⟨rfl, rfl, Feed.items_listed _⟩
  refine ⟨?_, sifted.answers⟩
  have relevant := runItems_keepAll options feed.items
  rw [run_eq_runItems rfl, run_eq_runItems rfl]
  exact sifted.items ▸ relevant

end Statements

end CardDeck
