import CardDeck.Statement.Run

/-!
The statements of a feed, told from the list of its items.

The lookahead and the reading of the feed are left out: an open statement takes items off the front
of a list. `run_eq_runItems` says that a run over a lookahead is this run over its items.
-/

set_option autoImplicit false

namespace CardDeck

namespace Lookahead

theorem items_of_item_peek {cards : Lookahead} {item : Item} (shown : cards.peek.item = some item) :
    cards.items = item :: cards.peek.rest.drop.items := by
  have first := cards.item_peek
  rw [shown] at first
  obtain ⟨rest, same⟩ := List.head?_eq_some_iff.mp first.symm
  have whole := cards.items_peek
  rw [same] at whole ⊢
  have held : cards.peek.rest.ahead = some item := by
    simp only [peek] at shown ⊢
    split at shown
    · rename_i there
      rw [← shown, there]
    · split at shown
      · cases shown
      · rw [← shown]
  rw [items, held] at whole
  rw [items, drop, ← (List.cons.inj whole).2]
  rfl

theorem items_of_item_peek_none {cards : Lookahead} (shown : cards.peek.item = none) :
    cards.items = [] := by
  rw [item_peek] at shown
  exact List.head?_eq_none_iff.mp shown

theorem nextIf_items (accepts : Item → Bool) (cards : Lookahead) :
    (cards.nextIf accepts).item = cards.items.head?.filter accepts ∧
      (cards.nextIf accepts).rest.items =
        if cards.items.head?.any accepts then cards.items.tail else cards.items := by
  have whole := cards.items_peek
  unfold nextIf
  cases shown : cards.peek.item with
  | none =>
    have empty := items_of_item_peek_none shown
    rw [empty] at whole
    simp [empty, shown, whole]
  | some item =>
    have same := items_of_item_peek shown
    rw [same] at whole
    by_cases accepted : accepts item = true
    · simp [same, shown, accepted, Option.filter_some]
    · simp [same, shown, accepted, whole, Option.filter_some]

theorem takeRelevant_items (options : Options) (accepts : Item → Bool) (cards : Lookahead) :
    let left := cards.items.dropWhile options.ignoresItem
    (cards.takeRelevant options accepts).item = left.head?.filter accepts ∧
      (cards.takeRelevant options accepts).rest.items =
        if left.head?.any accepts then left.tail else left := by
  fun_induction takeRelevant options accepts cards with
  | case1 cards ended =>
    have empty := items_of_item_peek_none ended
    rw [ended, items_peek, empty]
    exact ⟨rfl, rfl⟩
  | case2 cards item shown ignored further ih =>
    rw [items_of_item_peek shown, List.dropWhile_cons_of_pos ignored]
    exact ih
  | case3 cards item shown kept =>
    have taken := cards.nextIf_items accepts
    rw [items_of_item_peek shown] at taken
    rw [items_of_item_peek shown, List.dropWhile_cons_of_neg kept]
    exact taken

end Lookahead

/-- The cards at the front of the items that continue a statement, and the items after them. -/
def Options.continuations (options : Options) : List Item → List Card × List Item
  | [] => ([], [])
  | .error error :: items => ([], .error error :: items)
  | .ok card :: items =>
    if options.ignores card then
      options.continuations items
    else if card.isContinuation then
      (card :: (options.continuations items).1, (options.continuations items).2)
    else
      ([], .ok card :: items)

/-- An open statement is dropped at an error, and closed otherwise. -/
def Assembly.closeBefore (assembly : Assembly) : List Item → Except Fault (Result × List Item)
  | .error error :: items => .ok (.error error, items)
  | items => do return (.ok (← assembly.finish), items)

theorem Assembly.closeBefore_of_ne {assembly : Assembly} {items : List Item}
    (whole : ∀ error more, items ≠ .error error :: more) :
    assembly.closeBefore items = (do return (.ok (← assembly.finish), items)) := by
  unfold closeBefore
  split
  · rename_i error more
    exact absurd rfl (whole error more)
  · rfl

/-- What becomes of an open statement that goes on with the items, and the items after it. -/
def Assembly.gatherItems (options : Options) (assembly : Assembly) (items : List Item) :
    Except Fault (Result × List Item) := do
  let joined ← assembly.joinAll options (options.continuations items).1
  joined.closeBefore (options.continuations items).2

namespace Statements

/-- The first result that the items give, and the items after it. -/
def nextItems (options : Options) : List Item → Except Fault (Option (Result × List Item))
  | [] => .ok none
  | .error error :: items => .ok (some (.error error, items))
  | .ok first :: items =>
    if options.ignores first then
      nextItems options items
    else do
      return some (← (← Assembly.start first).gatherItems options items)

end Statements

theorem ignores_of_dropWhile {options : Options} {items rest : List Item} {card : Card}
    (left : items.dropWhile options.ignoresItem = .ok card :: rest) :
    options.ignores card = false := by
  have first := List.head?_dropWhile_not options.ignoresItem items
  rw [left] at first
  exact first

theorem Options.continuations_dropWhile (options : Options) (items : List Item) :
    options.continuations (items.dropWhile options.ignoresItem) = options.continuations items := by
  induction items with
  | nil => rfl
  | cons item items ih =>
    by_cases ignored : options.ignoresItem item = true
    · rw [List.dropWhile_cons_of_pos ignored, ih]
      cases item with
      | error error => cases ignored
      | ok card =>
        have passed : options.ignores card = true := ignored
        rw [Options.continuations, if_pos passed]
    · rw [List.dropWhile_cons_of_neg ignored]

theorem Options.continuations_length_le (options : Options) (items : List Item) :
    (options.continuations items).2.length ≤ items.length := by
  fun_induction Options.continuations options items with
  | case1 => exact Nat.le_refl _
  | case2 error items => exact Nat.le_refl _
  | case3 card items ignored ih => exact Nat.le_succ_of_le ih
  | case4 card items kept continuation ih => exact Nat.le_succ_of_le ih
  | case5 card items kept other => exact Nat.le_refl _

theorem Assembly.closeBefore_length_le {assembly : Assembly} {items rest : List Item}
    {result : Result} (done : assembly.closeBefore items = .ok (result, rest)) :
    rest.length ≤ items.length := by
  unfold Assembly.closeBefore at done
  split at done
  · cases done
    exact Nat.le_succ _
  · obtain ⟨statement, -, same⟩ := Fault.bind_eq_ok.mp done
    cases same
    exact Nat.le_refl _

theorem Assembly.gatherItems_length_le {options : Options} {assembly : Assembly}
    {items rest : List Item} {result : Result}
    (done : assembly.gatherItems options items = .ok (result, rest)) :
    rest.length ≤ items.length := by
  obtain ⟨joined, -, closed⟩ := Fault.bind_eq_ok.mp done
  exact Nat.le_trans (closeBefore_length_le closed) (options.continuations_length_le items)

namespace Statements

theorem nextItems_dropWhile (options : Options) (items : List Item) :
    nextItems options (items.dropWhile options.ignoresItem) = nextItems options items := by
  induction items with
  | nil => rfl
  | cons item items ih =>
    by_cases ignored : options.ignoresItem item = true
    · rw [List.dropWhile_cons_of_pos ignored, ih]
      cases item with
      | error error => cases ignored
      | ok card =>
        have passed : options.ignores card = true := ignored
        rw [nextItems, if_pos passed]
    · rw [List.dropWhile_cons_of_neg ignored]

theorem nextItems_length_lt {options : Options} {items rest : List Item} {result : Result}
    (done : nextItems options items = .ok (some (result, rest))) :
    rest.length < items.length := by
  fun_induction nextItems options items with
  | case1 => cases done
  | case2 error items =>
    cases done
    exact Nat.lt_succ_self _
  | case3 first items ignored ih => exact Nat.lt_succ_of_lt (ih done)
  | case4 first items kept =>
    obtain ⟨started, -, more⟩ := Fault.bind_eq_ok.mp done
    obtain ⟨gathered, taken, same⟩ := Fault.bind_eq_ok.mp more
    cases same
    exact Nat.lt_succ_of_le (Assembly.gatherItems_length_le taken)

/-- The results that the items give, up to the first error or fault. -/
def runItems (options : Options) (items : List Item) : Run :=
  match _ : nextItems options items with
  | .error fault => { results := [], fault := some fault }
  | .ok none => { results := [] }
  | .ok (some (.error error, _)) => { results := [.error error] }
  | .ok (some (.ok statement, rest)) =>
    let later := runItems options rest
    { later with results := .ok statement :: later.results }
termination_by items.length
decreasing_by exact nextItems_length_lt (by assumption)

theorem runItems_of_error {options : Options} {items : List Item} {fault : Fault}
    (next : nextItems options items = .error fault) :
    runItems options items = { results := [], fault := some fault } := by
  rw [runItems]
  split <;> simp_all

theorem runItems_of_none {options : Options} {items : List Item}
    (next : nextItems options items = .ok none) : runItems options items = { results := [] } := by
  rw [runItems]
  split <;> simp_all

theorem runItems_of_failure {options : Options} {items rest : List Item} {error : SourceError}
    (next : nextItems options items = .ok (some (.error error, rest))) :
    runItems options items = { results := [.error error] } := by
  rw [runItems]
  split <;> simp_all

theorem runItems_of_statement {options : Options} {items rest : List Item} {statement : Statement}
    (next : nextItems options items = .ok (some (.ok statement, rest))) :
    runItems options items =
      { runItems options rest with
        results := .ok statement :: (runItems options rest).results } := by
  rw [runItems]
  split <;> simp_all

theorem gatherItems_of_pull {options : Options} {assembly : Assembly} {cards : Lookahead}
    (pull : Pull) (pulled : pull = cards.takeRelevant options continues) :
    assembly.gatherItems options cards.items =
      match pull.item with
      | none => do return (.ok (← assembly.finish), pull.rest.items)
      | some (.error error) => .ok (.error error, pull.rest.items)
      | some (.ok card) =>
        assembly.join options card >>= (·.gatherItems options pull.rest.items) := by
  obtain ⟨item, rest⟩ := cards.takeRelevant_items options continues
  rw [← pulled] at item rest
  rw [Assembly.gatherItems, ← options.continuations_dropWhile]
  cases left : cards.items.dropWhile options.ignoresItem with
  | nil =>
    rw [left] at item rest
    rw [item, rest]
    rfl
  | cons next items =>
    rw [left] at item rest
    cases next with
    | error error =>
      have taken : pull.item = some (.error error) := item
      rw [taken, rest]
      rfl
    | ok card =>
      rw [List.head?_cons, Option.filter_some] at item
      rw [Options.continuations, ignores_of_dropWhile left, if_neg Bool.false_ne_true]
      by_cases continuation : card.isContinuation = true
      · rw [if_pos (show continues (.ok card) = true from continuation)] at item
        have after : pull.rest.items = items := by rw [rest]; simp [continues, continuation]
        rw [if_pos continuation, item, after]
        show (assembly.join options card >>= _) >>= _ = _
        rw [bind_assoc]
        rfl
      · rw [if_neg (show ¬ continues (.ok card) = true from continuation)] at item
        have after : pull.rest.items = .ok card :: items := by
          rw [rest]
          simp [continues, continuation]
        rw [if_neg continuation, item, after]
        rfl

theorem gather_items (options : Options) (assembly : Assembly) (cards : Lookahead) :
    (gather options assembly cards).map (fun gathered => (gathered.result, gathered.rest.items)) =
      assembly.gatherItems options cards.items := by
  fun_induction gather options assembly cards with
  | case1 assembly cards pull ended =>
    rw [gatherItems_of_pull pull rfl, ended]
    cases assembly.finish <;> rfl
  | case2 assembly cards pull error failed =>
    rw [gatherItems_of_pull pull rfl, failed]
    rfl
  | case3 assembly cards pull card taken ih =>
    rw [gatherItems_of_pull pull rfl, taken]
    show _ = assembly.join options card >>= (·.gatherItems options pull.rest.items)
    cases assembly.join options card with
    | error fault => rfl
    | ok joined =>
      rw [Fault.ok_bind, Fault.ok_bind, ← ih joined]
      cases gather options joined pull.rest <;> rfl

theorem next_items {statements : Statements} (going : statements.finished = false) :
    statements.next.map (fun step => (step.result, step.rest.options, step.rest.finished,
        step.rest.cards.items)) =
      (nextItems statements.options statements.cards.items).map fun
        | none => (none, statements.options, false, [])
        | some (result, rest) => (some result, statements.options, !result.isOk, rest) := by
  obtain ⟨item, rest⟩ := statements.cards.takeRelevant_items statements.options fun _ => true
  rw [next, going, if_neg Bool.false_ne_true, ← nextItems_dropWhile]
  dsimp only
  generalize statements.cards.takeRelevant statements.options (fun _ => true) = pull at *
  cases left : statements.cards.items.dropWhile statements.options.ignoresItem with
  | nil =>
    rw [left] at item rest
    rw [item, nextItems]
    simp [Except.map, rest]
  | cons first items =>
    rw [left] at item rest
    rw [List.head?_cons, Option.filter_some, if_pos rfl] at item
    have after : pull.rest.items = items := rest
    cases first with
    | error error =>
      rw [item, nextItems]
      simp [Except.map, Except.isOk, Except.toBool, after]
    | ok card =>
      rw [item, nextItems, ignores_of_dropWhile left, if_neg Bool.false_ne_true, ← after]
      dsimp only
      cases Assembly.start card with
      | error fault => rfl
      | ok started =>
        rw [Fault.ok_bind, Fault.ok_bind, ← gather_items]
        cases gather statements.options started pull.rest with
        | error fault => rfl
        | ok gathered =>
          cases same : gathered.result <;> simp [Except.map, same, Except.isOk, Except.toBool]

theorem next_of_error {statements : Statements} (going : statements.finished = false)
    {fault : Fault}
    (given : nextItems statements.options statements.cards.items = .error fault) :
    statements.next = .error fault := by
  have outline := next_items going
  rw [given] at outline
  cases next : statements.next with
  | error other =>
    rw [next] at outline
    simpa only [Except.map, Except.error.injEq] using outline
  | ok step =>
    rw [next] at outline
    cases outline

theorem next_of_none {statements : Statements} (going : statements.finished = false)
    (given : nextItems statements.options statements.cards.items = .ok none) :
    ∃ step, statements.next = .ok step ∧ step.result = none ∧
      step.rest.options = statements.options ∧ step.rest.finished = false ∧
      step.rest.cards.items = [] := by
  have outline := next_items going
  rw [given] at outline
  cases next : statements.next with
  | error other =>
    rw [next] at outline
    cases outline
  | ok step =>
    rw [next] at outline
    simp only [Except.map, Except.ok.injEq, Prod.mk.injEq] at outline
    exact ⟨step, rfl, outline⟩

theorem next_of_some {statements : Statements} (going : statements.finished = false)
    {result : Result} {rest : List Item}
    (given : nextItems statements.options statements.cards.items = .ok (some (result, rest))) :
    ∃ step, statements.next = .ok step ∧ step.result = some result ∧
      step.rest.options = statements.options ∧
      step.rest.finished = !result.isOk ∧ step.rest.cards.items = rest := by
  have outline := next_items going
  rw [given] at outline
  cases next : statements.next with
  | error other =>
    rw [next] at outline
    cases outline
  | ok step =>
    rw [next] at outline
    simp only [Except.map, Except.ok.injEq, Prod.mk.injEq] at outline
    exact ⟨step, rfl, outline⟩

/-- All that a call can come to, in terms of the items that are left. -/
theorem next_eq_ok {statements : Statements} {step : Step} (going : statements.finished = false)
    (done : statements.next = .ok step) :
    (nextItems statements.options statements.cards.items = .ok none ∧ step.result = none ∧
      step.rest.finished = false ∧ step.rest.cards.items = []) ∨
    ∃ result rest, nextItems statements.options statements.cards.items =
        .ok (some (result, rest)) ∧ step.result = some result ∧
      step.rest.finished = !result.isOk ∧ step.rest.cards.items = rest := by
  cases given : nextItems statements.options statements.cards.items with
  | error fault =>
    rw [next_of_error going given] at done
    cases done
  | ok next =>
    cases next with
    | none =>
      left
      obtain ⟨same, called, result, -, further, left⟩ := next_of_none going given
      rw [called] at done
      cases done
      exact ⟨rfl, result, further, left⟩
    | some next =>
      right
      obtain ⟨result, rest⟩ := next
      obtain ⟨same, called, given, -, further, left⟩ := next_of_some going given
      rw [called] at done
      cases done
      exact ⟨result, rest, rfl, given, further, left⟩

theorem next_of_finished {statements : Statements} (finished : statements.finished = true) :
    statements.next = .ok { result := none, records := [], rest := statements } := by
  rw [next, if_pos finished]

theorem run_of_error {statements : Statements} {fault : Fault}
    (next : statements.next = .error fault) :
    statements.run = { results := [], fault := some fault } := by
  rw [run]
  split <;> simp_all

theorem run_of_none {statements : Statements} {step : Step} (next : statements.next = .ok step)
    (ended : step.result = none) : statements.run = { results := [] } := by
  rw [run]
  split
  · simp_all
  · split <;> simp_all

theorem run_of_some {statements : Statements} {step : Step} {result : Result}
    (next : statements.next = .ok step) (given : step.result = some result) :
    statements.run = { step.rest.run with results := result :: step.rest.run.results } := by
  rw [run]
  split
  · simp_all
  · split <;> simp_all

/-- A run over a lookahead is the run over the items that are left in it. -/
theorem run_eq_runItems {statements : Statements} (going : statements.finished = false) :
    statements.run = runItems statements.options statements.cards.items := by
  induction length : statements.cards.items.length using Nat.strongRecOn
    generalizing statements with
  | ind length ih =>
    cases given : nextItems statements.options statements.cards.items with
    | error fault => rw [run_of_error (next_of_error going given), runItems_of_error given]
    | ok next =>
      match next with
      | none =>
        obtain ⟨step, called, ended, -⟩ := next_of_none going given
        rw [run_of_none called ended, runItems_of_none given]
      | some (.error error, rest) =>
        obtain ⟨step, called, result, -, finished, -⟩ := next_of_some going given
        rw [run_of_some called result, run_of_none (next_of_finished finished) rfl,
          runItems_of_failure given]
      | some (.ok statement, rest) =>
        obtain ⟨step, called, result, options, going, left⟩ := next_of_some going given
        have shorter := nextItems_length_lt given
        have later := ih _ (by rw [left, ← length]; exact shorter) going rfl
        rw [options, left] at later
        rw [run_of_some called result, runItems_of_statement given, later]

end Statements

end CardDeck
