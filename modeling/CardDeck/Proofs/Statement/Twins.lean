import CardDeck.Proofs.Statement.Continued
import CardDeck.Proofs.Statement.Errors
import Mathlib.Data.List.Forall2

/-!
Two runs side by side.

If the items of two feeds stand for each other one by one, and the options treat them alike, then
their groups stand for each other too. `run_twins` carries whatever this says of the statements of
two groups over to the two runs.
-/

set_option autoImplicit false

namespace CardDeck

/-- Cards that the relation joins, or the same error. -/
def Item.Twin (related : Card → Card → Prop) : Item → Item → Prop
  | .ok card, .ok twin => related card twin
  | .error error, .error same => error = same
  | .ok _, .error _ | .error _, .ok _ => False

/-- Related cards are from the same line, and whatever groups the one groups the other. -/
structure Options.Agree (options others : Options) (related : Card → Card → Prop) : Prop where
  line : ∀ card twin, related card twin → twin.line = card.line
  ignores : ∀ card twin, related card twin → others.ignores twin = options.ignores card
  continues : ∀ card twin, related card twin → twin.isContinuation = card.isContinuation

theorem ascending_of_lines {cards twins : List Card} (lines : Ascending cards)
    (same : twins.map Card.line = cards.map Card.line) : Ascending twins := by
  have ordered : (cards.map Card.line).Pairwise (· < ·) := List.pairwise_map.mpr lines
  rw [← same] at ordered
  exact List.pairwise_map.mp ordered

theorem map_eq_of_forall₂ {α β : Type} {related : α → α → Prop} {view : α → β}
    (same : ∀ one other, related one other → view other = view one) {list twins : List α}
    (alike : List.Forall₂ related list twins) : twins.map view = list.map view := by
  induction alike with
  | nil => rfl
  | cons head tail ih => rw [List.map_cons, List.map_cons, same _ _ head, ih]

theorem eq_map_of_forall₂ {α : Type} {change : α → α} {list twins : List α}
    (alike : List.Forall₂ (fun one other => other = change one) list twins) :
    twins = list.map change := by
  induction alike with
  | nil => rfl
  | cons head tail ih => rw [List.map_cons, head, ih]

namespace Options.Agree

variable {options others : Options} {related : Card → Card → Prop} {items twins rest : List Item}

theorem of_ignores (same : others.ignores = options.ignores) : options.Agree others Eq := by
  refine ⟨?_, ?_, ?_⟩
  · rintro card _ rfl
    rfl
  · rintro card _ rfl
    rw [same]
  · rintro card _ rfl
    rfl

theorem ignoresItem (agree : options.Agree others related) {item twin : Item}
    (alike : Item.Twin related item twin) :
    others.ignoresItem twin = options.ignoresItem item := by
  cases item with
  | error error =>
    cases twin with
    | error same => rfl
    | ok twin => exact alike.elim
  | ok card =>
    cases twin with
    | error same => exact alike.elim
    | ok twin => exact agree.ignores card twin alike

theorem relevant (agree : options.Agree others related)
    (alike : List.Forall₂ (Item.Twin related) items twins) :
    List.Forall₂ (Item.Twin related) (options.relevant items) (others.relevant twins) := by
  apply List.rel_filter _ alike
  intro item twin same
  show (!options.ignoresItem item) = true ↔ (!others.ignoresItem twin) = true
  rw [agree.ignoresItem same]

theorem continuations (agree : options.Agree others related)
    (alike : List.Forall₂ (Item.Twin related) items twins) :
    List.Forall₂ related (options.continuations items).1 (others.continuations twins).1 ∧
      List.Forall₂ (Item.Twin related) (options.continuations items).2
        (others.continuations twins).2 := by
  induction alike with
  | nil => exact ⟨.nil, .nil⟩
  | @cons item twin items twins head tail ih =>
    cases item with
    | error error =>
      cases twin with
      | error same => exact ⟨.nil, .cons head tail⟩
      | ok twin => exact head.elim
    | ok card =>
      cases twin with
      | error same => exact head.elim
      | ok twin =>
        rw [Options.continuations, Options.continuations, agree.ignores card twin head,
          agree.continues card twin head]
        split
        · exact ih
        · split
          · exact ⟨.cons head ih.1, ih.2⟩
          · exact ⟨.nil, .cons head tail⟩

theorem opens (agree : options.Agree others related) {first : Card} {continuations : List Card}
    (group : options.Opens items first continuations rest)
    (alike : List.Forall₂ (Item.Twin related) items twins) :
    ∃ twin followers left, others.Opens twins twin followers left ∧ related first twin ∧
      List.Forall₂ related continuations followers ∧
      List.Forall₂ (Item.Twin related) rest left := by
  induction group generalizing twins with
  | @here first kept items =>
    cases alike with
    | @cons _ twin _ twins head tail =>
      cases twin with
      | error error => exact head.elim
      | ok twin =>
        obtain ⟨followers, left⟩ := agree.continuations tail
        have kept' := (agree.ignores first twin head).trans kept
        exact ⟨twin, _, _, Opens.here kept' twins, head, followers, left⟩
  | @passed card first items rest continuations ignored group ih =>
    cases alike with
    | @cons _ twin _ twins head tail =>
      cases twin with
      | error error => exact head.elim
      | ok twin =>
        obtain ⟨start, followers, left, opens, same⟩ := ih tail
        have passed := (agree.ignores card twin head).trans ignored
        exact ⟨start, followers, left, Opens.passed passed opens, same⟩

end Options.Agree

namespace Item.Twin

variable {related : Card → Card → Prop} {items twins : List Item}

theorem clean (alike : List.Forall₂ (Item.Twin related) items twins) (clean : Clean items) :
    Clean twins := by
  induction alike with
  | nil => exact clean
  | @cons item twin items twins head tail ih =>
    intro error member
    rcases List.mem_cons.mp member with rfl | later
    · cases item with
      | error same => exact clean same List.mem_cons_self
      | ok card => exact head.elim
    · exact ih (clean.suffix (List.suffix_cons _ _)) error later

theorem head? (alike : List.Forall₂ (Item.Twin related) items twins) {card twin : Card}
    (first : items.head? = some (.ok card)) (other : twins.head? = some (.ok twin)) :
    related card twin := by
  cases alike with
  | nil => cases first
  | cons head tail =>
    cases first
    cases other
    exact head

end Item.Twin

/--
Whatever holds of the statements of groups that stand for each other. A relation may be asked of
the first cards of the groups if it holds of the cards that continue nothing; for the very first
card of all it has to be shown apart.
-/
structure Options.Carries (options others : Options) (related starts : Card → Card → Prop)
    (same : Statement → Statement → Prop) : Prop extends options.Agree others related where
  fresh : ∀ card twin, related card twin → options.ignores card = false →
    card.isContinuation = false → starts card twin
  made : ∀ first twin continuations followers, starts first twin → related first twin →
    List.Forall₂ related continuations followers →
    same (.ofJoined options.maxContinuations first continuations)
      (.ofJoined others.maxContinuations twin followers)

namespace Statements

variable {options others : Options} {related starts : Card → Card → Prop}
  {same : Statement → Statement → Prop}

/-- Runs over items that stand for each other give as many statements, one as the other. -/
theorem runItems_twins (carries : options.Carries others related starts same)
    (counted : options.maxContinuations ≠ some topLimit)
    (counted' : others.maxContinuations ≠ some topLimit) {items twins : List Item}
    (clean : Clean items) (lines : Ascending (cardsOf items))
    (alike : List.Forall₂ (Item.Twin related) items twins)
    (front : ∀ first twin, (options.relevant items).head? = some (.ok first) →
      (others.relevant twins).head? = some (.ok twin) → starts first twin) :
    ∃ statements second, runItems options items = { results := statements.map .ok } ∧
      runItems others twins = { results := second.map .ok } ∧
      List.Forall₂ same statements second := by
  induction items, clean using options.clean_induction generalizing twins with
  | nothing items clean empty next =>
    have none := carries.relevant alike
    rw [empty, List.forall₂_nil_left_iff] at none
    have bare : runItems others twins = runItems others [] := runItems_congr none
    refine ⟨[], [], runItems_of_none next, ?_, .nil⟩
    rw [bare, runItems_nil]
    rfl
  | group items first continuations rest clean further opens ih =>
    obtain ⟨twin, followers, left, opens', head, tail, behind⟩ := carries.opens opens alike
    have ascending := opens.ascending lines
    have ascending' : Ascending (twin :: followers) :=
      ascending_of_lines ascending (map_eq_of_forall₂ carries.line (.cons head tail))
    rcases opens.next_cases ascending with ⟨top, -⟩ |
      ⟨-, ⟨error, more, broken, -⟩ | ⟨statement, -, next, begun, -⟩⟩
    · exact absurd top counted
    · exact absurd broken further.ne_error
    rcases opens'.next_cases ascending' with ⟨top, -⟩ |
      ⟨-, ⟨error, more, broken, -⟩ | ⟨other, -, next', begun', -⟩⟩
    · exact absurd top counted'
    · exact absurd broken (Item.Twin.clean behind further).ne_error
    have start : starts first twin := by
      apply front
      · rw [opens.relevant]
        rfl
      · rw [opens'.relevant]
        rfl
    -- the first card behind a group continues nothing
    obtain ⟨later, others, run, run', pairs⟩ := ih (opens.ascending_rest lines) behind (by
      intro card twin here there
      have kept := (List.mem_filter.mp (List.mem_of_mem_head? here)).2
      apply carries.fresh card twin (Item.Twin.head? (carries.relevant behind) here there)
      · exact (Bool.not_eq_true' _).mp kept
      · exact opens.fresh here)
    refine ⟨statement :: later, other :: others, ?_, ?_, .cons ?_ pairs⟩
    · rw [runItems_of_statement next, run]
      rfl
    · rw [runItems_of_statement next', run']
      rfl
    · rw [Statement.ofCards_eq_ofJoined ascending counted] at begun
      rw [Statement.ofCards_eq_ofJoined ascending' counted'] at begun'
      rw [← Except.ok.inj begun, ← Except.ok.inj begun']
      exact carries.made _ _ _ _ start head tail

theorem run_twins (carries : options.Carries others related starts same)
    (counted : options.maxContinuations ≠ some topLimit)
    (counted' : others.maxContinuations ≠ some topLimit) {feed second : Feed}
    {cards twins : List Card} (items : feed.items = cards.map .ok)
    (items' : second.items = twins.map .ok) (lines : Ascending cards)
    (alike : List.Forall₂ related cards twins)
    (front : ∀ first twin, (cards.find? fun card => !options.ignores card) = some first →
      (twins.find? fun card => !others.ignores card) = some twin → starts first twin) :
    ∃ statements second', (ofFeed options feed).run = { results := statements.map .ok } ∧
      (ofFeed others second).run = { results := second'.map .ok } ∧
      List.Forall₂ same statements second' := by
  have left : (ofFeed options feed).cards.items = cards.map .ok := items
  have right : (ofFeed others second).cards.items = twins.map .ok := items'
  rw [run_eq_runItems rfl, run_eq_runItems rfl, left, right]
  apply runItems_twins carries counted counted' (Clean.map_ok cards)
  · rw [cardsOf_map_ok]
    exact lines
  · rw [List.forall₂_map_left_iff, List.forall₂_map_right_iff]
    exact alike
  · intro first twin here there
    rw [Options.head?_relevant_map_ok, Option.map_eq_some_iff] at here there
    obtain ⟨card, found, here⟩ := here
    obtain ⟨card', found', there⟩ := there
    cases here
    cases there
    exact front _ _ found found'

end Statements

end CardDeck
