import CardDeck.Proofs.Statement.Errors
import CardDeck.Proofs.Token.Slice

set_option autoImplicit false

namespace CardDeck

namespace Entry

/-- The offset in the body at which the entry starts, told from its column. -/
def start (entry : Entry) : Nat := entry.position.column - bodyColumn

/-- The offset behind the entry. A literal that is left open goes up to the edge. -/
def stop (entry : Entry) : Nat :=
  match entry with
  | token found => entry.start + found.lexeme.length
  | unclosed _ => bodyWidth
  | stray _ _ => entry.start + 1

/-- What is told from the columns of an entry that stands at the offset of the body of a card. -/
theorem front_span {card : Card} {offset : Nat} {c : Char} {rest : Text}
    (left : card.body.drop offset = c :: rest) :
    let entry := front (card.placeOf offset) c rest
    entry.start = offset ∧ entry.stop = offset + entry.length ∧ entry.stop ≤ bodyWidth ∧
      entry.position = card.placeOf entry.start := by
  intro entry
  have place : entry.position = card.placeOf offset := front_position _ _ _
  have start : entry.start = offset := by
    rw [Entry.start, place]
    exact Nat.add_sub_cancel_left bodyColumn offset
  have width : bodyWidth - offset = rest.length + 1 := by
    rw [← card.body_length, ← List.length_drop, left, List.length_cons]
  have stop : entry.stop = offset + entry.length := by
    rcases front_cases (card.placeOf offset) c rest with
      ⟨n, -, -, -, same⟩ | ⟨literal, -, -, text, -, -, same⟩ | ⟨kind, n, -, -, same⟩ | ⟨-, -, same⟩
    · have here : entry = _ := same
      rw [← start, here]
      rfl
    · have here : entry = _ := same
      rw [here, Entry.stop, length, text, List.length_cons]
      omega
    · have here : entry = _ := same
      rw [← start, here]
      rfl
    · have here : entry = _ := same
      rw [← start, here]
      rfl
  have fits : entry.length ≤ rest.length + 1 := (front_text _ c rest).2
  refine ⟨start, stop, ?_, by rw [place, start]⟩
  omega

end Entry

namespace Card

/-- The entries cover what the body of the card has from the offset on. -/
structure Covered (card : Card) (offset : Nat) (found : List Entry) : Prop where
  within : ∀ entry ∈ found, offset ≤ entry.start ∧ entry.start < entry.stop ∧
    entry.stop ≤ bodyWidth
  ordered : found.Pairwise fun entry later => entry.stop ≤ later.start
  placed : ∀ entry ∈ found, entry.position = card.placeOf entry.start
  texts : ∀ entry ∈ found, card.body.slice? entry.start entry.stop = some entry.text
  fronts : ∀ entry ∈ found, ∃ c, card.body[entry.start]? = some c ∧ isWhite c = false
  gaps : ∀ index c, offset ≤ index → card.body[index]? = some c →
    (∀ entry ∈ found, ¬ (entry.start ≤ index ∧ index < entry.stop)) → isWhite c = true
  /-- No entry follows a literal that is left open. -/
  last : ∀ before literal after, found = before ++ .unclosed literal :: after → after = []

namespace Covered

variable {card : Card} {offset : Nat}

theorem nil (outside : bodyWidth ≤ offset) : card.Covered offset [] where
  within := List.forall_mem_nil _
  ordered := .nil
  placed := List.forall_mem_nil _
  texts := List.forall_mem_nil _
  fronts := List.forall_mem_nil _
  gaps index c behind here _ := by
    obtain ⟨inside, -⟩ := List.getElem?_eq_some_iff.mp here
    rw [card.body_length] at inside
    omega
  last before literal after same := by
    have some := congrArg List.length same
    rw [List.length_append, List.length_cons, List.length_nil] at some
    omega

theorem white {found : List Entry} {c : Char} (here : card.body[offset]? = some c)
    (blank : isWhite c = true) (covered : card.Covered (offset + 1) found) :
    card.Covered offset found where
  within entry member := by
    obtain ⟨behind, inside⟩ := covered.within entry member
    exact ⟨Nat.le_of_succ_le behind, inside⟩
  ordered := covered.ordered
  placed := covered.placed
  texts := covered.texts
  fronts := covered.fronts
  gaps index d behind there free := by
    rcases Nat.eq_or_lt_of_le behind with rfl | later
    · rw [here] at there
      cases there
      exact blank
    · exact covered.gaps index d later there free
  last := covered.last

theorem cons {c : Char} {rest : Text} {found : List Entry}
    (left : card.body.drop offset = c :: rest) (plain : isWhite c = false)
    (covered : card.Covered (offset + (Entry.front (card.placeOf offset) c rest).length) found) :
    card.Covered offset (Entry.front (card.placeOf offset) c rest :: found) := by
  obtain ⟨start, stop, fits, placed⟩ := Entry.front_span left
  have positive := Entry.front_length_pos (card.placeOf offset) c rest
  have text := (Entry.front_text (card.placeOf offset) c rest).1
  generalize Entry.front (card.placeOf offset) c rest = entry at *
  have behind : ∀ later ∈ found, entry.stop ≤ later.start := by
    intro later member
    rw [stop]
    exact (covered.within later member).1
  have here : card.body[entry.start]? = some c := by
    rw [start, ← List.head?_drop, left, List.head?_cons]
  constructor
  · refine List.forall_mem_cons.mpr ⟨⟨Nat.le_of_eq start.symm, by omega, fits⟩, ?_⟩
    intro later member
    obtain ⟨beyond, inside⟩ := covered.within later member
    exact ⟨by omega, inside⟩
  · exact List.pairwise_cons.mpr ⟨behind, covered.ordered⟩
  · exact List.forall_mem_cons.mpr ⟨placed, covered.placed⟩
  · refine List.forall_mem_cons.mpr ⟨?_, covered.texts⟩
    rw [Text.slice?_eq_some (by omega) (by rw [card.body_length]; exact fits), start, left, text]
    congr 2
    omega
  · exact List.forall_mem_cons.mpr ⟨⟨c, here, plain⟩, covered.fronts⟩
  · intro index d onward there free
    obtain ⟨outside, others⟩ := List.forall_mem_cons.mp free
    exact covered.gaps index d (by omega) there others
  · intro before literal after same
    cases before with
    | nil =>
      obtain ⟨rfl, rfl⟩ := List.cons.inj same
      -- a literal goes up to the edge, and nothing is behind that
      cases found with
      | nil => rfl
      | cons later found =>
        have edge : bodyWidth ≤ later.start := behind later List.mem_cons_self
        have inside := covered.within later List.mem_cons_self
        omega
    | cons first before =>
      exact covered.last before literal after (List.cons.inj same).2

end Covered

/-- The entries of a text that is left of a body cover it. -/
theorem covered_entries {card : Card} {offset : Nat} {position : Position} {text : Text}
    (place : position = card.placeOf offset) (left : card.body.drop offset = text) :
    card.Covered offset (entries position text) := by
  fun_induction entries position text generalizing offset with
  | case1 position =>
    apply Covered.nil
    rw [← card.body_length]
    exact List.drop_eq_nil_iff.mp left
  | case2 position c rest blank ih =>
    have here : card.body[offset]? = some c := by
      rw [← List.head?_drop, left, List.head?_cons]
    apply Covered.white here blank
    apply ih
    · rw [place]
      rfl
    · rw [← List.drop_drop, left, List.drop_succ_cons, List.drop_zero]
  | case3 position c rest blank entry =>
    rename_i ih
    subst entry place
    apply Covered.cons left (Bool.eq_false_iff.mpr blank)
    apply ih
    · rw [placeOf, placeOf, Position.right, Nat.add_assoc]
    · rw [← List.drop_drop, left]

theorem Covered.stray_place {card : Card} {offset : Nat} {found : List Entry} {c : Char}
    {position : Position} (covered : card.Covered offset found)
    (member : .stray c position ∈ found) :
    ∃ index, position = card.placeOf index ∧ card.body[index]? = some c := by
  have placed : position = card.placeOf (Entry.stray c position).start := covered.placed _ member
  have text := covered.texts _ member
  obtain ⟨d, here, -⟩ := covered.fronts _ member
  obtain ⟨-, -, fits⟩ := covered.within _ member
  obtain ⟨more, left⟩ := List.head?_eq_some_iff.mp (List.head?_drop.trans here)
  have stop : (Entry.stray c position).stop = (Entry.stray c position).start + 1 := rfl
  rw [stop] at text fits
  rw [Text.slice?_eq_some (Nat.le_add_right _ 1) (by rw [card.body_length]; exact fits), left,
    Nat.add_sub_cancel_left] at text
  obtain ⟨rfl, -⟩ := List.cons.inj (Option.some.inj text)
  exact ⟨_, placed, here⟩

/--
Whatever a card holds and wherever the scan of it starts: the entries cover the body from there on,
entering them adds no error but that a character of the body starts no token, and from the edge on
there are none.
-/
theorem entriesFrom_covered (card : Card) (offset : Nat) :
    card.Covered offset (card.entriesFrom offset) ∧
      (∀ draft entered, Assembly.enter draft (card.entriesFrom offset) = .ok entered →
        ∀ error ∈ entered.draft.errors, error ∈ draft.errors ∨
          ∃ index c, .stray c (card.placeOf index) ∈ card.entriesFrom offset ∧
            error = .strayCharacter c (card.placeOf index) ∧ card.body[index]? = some c) ∧
      (bodyWidth ≤ offset → card.entriesFrom offset = []) := by
  have covered : card.Covered offset (card.entriesFrom offset) := covered_entries rfl rfl
  refine ⟨covered, ?_, card.entriesFrom_of_le⟩
  intro draft entered done error among
  obtain ⟨-, -, ⟨-, same⟩ | ⟨c, position, member, -, added⟩⟩ := Assembly.enter_errors done
  · rw [same] at among
    exact Or.inl among
  · rw [added] at among
    rcases List.mem_append.mp among with earlier | here
    · exact Or.inl earlier
    · obtain ⟨index, rfl, there⟩ := covered.stray_place member
      exact Or.inr ⟨index, c, member, List.mem_singleton.mp here, there⟩

/-- Tokens without white space between them, strays on both sides, and a literal to the edge. -/
def coveredCard : Card := ofLine 3 "      X=_1.E5 é.. 'A''B'+\"C'".toList

theorem entriesFrom_covered_stray :
    (coveredCard.entriesFrom 2).map (fun entry => (entry.start, entry.stop)) =
      [(2, 3), (3, 7), (8, 9), (9, 10), (10, 11), (12, 18), (18, 19), (19, 66)] ∧
    coveredCard.Covered 2 (coveredCard.entriesFrom 2) ∧ coveredCard.entriesFrom 66 = [] := by
  refine ⟨?_, (entriesFrom_covered coveredCard 2).1, ?_⟩
  · decide +kernel
  · exact (entriesFrom_covered coveredCard 66).2.2 (Nat.le_refl _)

end Card

end CardDeck
