import CardDeck.Proofs.Literal.Reached

set_option autoImplicit false

namespace CardDeck

/-- The outcome seen from further in front: a literal that closes takes that many more. -/
def Resumed.behind (count : Nat) : Resumed → Resumed
  | .closed token consumed => .closed token (count + consumed)
  | .stillOpen literal => .stillOpen literal

theorem Resumed.behind_zero (resumed : Resumed) : resumed.behind 0 = resumed := by
  cases resumed with
  | closed token consumed => rw [behind, Nat.zero_add]
  | stillOpen literal => rfl

theorem Resumed.behind_behind (resumed : Resumed) (first second : Nat) :
    (resumed.behind second).behind first = resumed.behind (first + second) := by
  cases resumed with
  | closed token consumed => rw [behind, behind, behind, Nat.add_assoc]
  | stillOpen literal => rfl

namespace OpenLiteral

variable {literal further : OpenLiteral} {front back : Text}

theorem resume_of_closingIn? {body : Text} {n : Nat} (closing : literal.closingIn? body = some n)
    (inside : n < body.length) :
    literal.resume body = .closed { literal with text := literal.text ++ body.take n }.token n := by
  rcases literal.resume_cases body with ⟨m, found, -, resumed⟩ | ⟨whole, -⟩
  · rw [closing] at found
    cases found
    exact resumed
  · exact absurd (whole n closing) (Nat.not_le_of_lt inside)

theorem resume_of_whole {body : Text} (present : body ≠ [])
    (whole : ∀ n, literal.closingIn? body = some n → body.length ≤ n) :
    literal.resume body = .stillOpen (literal.prolonged body) := by
  rcases literal.resume_cases body with ⟨n, closing, short, -⟩ | ⟨-, resumed⟩
  · rcases short with inside | empty
    · exact absurd (whole n closing) (Nat.not_le_of_lt inside)
    · exact absurd empty present
  · exact resumed

theorem Formed.resume_append_closed (formed : literal.Formed) (present : front ≠ [])
    {token : Token} {n : Nat} (closed : literal.resume front = .closed token n) (back : Text) :
    literal.resume (front ++ back) = .closed token n := by
  obtain ⟨rfl, closing, short⟩ := resume_eq_token closed
  have inside : n < front.length := short.resolve_right present
  have longer := formed.closingIn?_append_of_lt closing inside back
  rw [resume_of_closingIn? longer (by rw [List.length_append]; omega),
    List.take_append_of_le_length (Nat.le_of_lt inside)]

theorem Formed.prolonged_append (formed : literal.Formed)
    (whole : ∀ n, literal.closingIn? front = some n → front.length ≤ n) (back : Text) :
    (literal.prolonged front).prolonged back = literal.prolonged (front ++ back) := by
  have edge : ((literal.prolonged front).closingIn? back).isSome =
      (literal.closingIn? (front ++ back)).isSome := by
    rw [formed.closingIn?_append_of_le whole back, Option.isSome_map]
  rw [OpenLiteral.prolonged, edge, prolonged_text, List.append_assoc]
  rfl

/-- What leaves a literal open over the front part leaves the rest to what is reached there. -/
theorem Formed.resume_append_open (formed : literal.Formed)
    (opened : literal.resume front = .stillOpen further) (present : back ≠ []) :
    literal.resume (front ++ back) = (further.resume back).behind front.length := by
  obtain ⟨rfl, whole⟩ := resume_eq_stillOpen opened
  have closing := formed.closingIn?_append_of_le whole back
  rcases (literal.prolonged front).resume_cases back with
    ⟨n, found, short, resumed⟩ | ⟨passed, resumed⟩
  · have inside : n < back.length := short.resolve_right present
    rw [found, Option.map_some] at closing
    rw [resume_of_closingIn? closing (by rw [List.length_append]; omega), resumed,
      Resumed.behind, List.take_length_add_append, prolonged_text, List.append_assoc]
    rfl
  · have more : front ++ back ≠ [] := fun empty => present (List.append_eq_nil_iff.mp empty).2
    have throughout : ∀ n, literal.closingIn? (front ++ back) = some n →
        (front ++ back).length ≤ n := by
      intro n found
      rw [closing] at found
      obtain ⟨m, later, rfl⟩ := Option.map_eq_some_iff.mp found
      have far := passed m later
      rw [List.length_append]
      omega
    rw [resume_of_whole more throughout, resumed, Resumed.behind, formed.prolonged_append whole]

theorem resumeAll_closed {part : Text} {token : Token} {n : Nat}
    (closed : literal.resume part = .closed token n) (parts : List Text) :
    literal.resumeAll (part :: parts) = [.closed token n] := by
  rw [resumeAll, closed]

theorem resumeAll_open {part : Text} (opened : literal.resume part = .stillOpen further)
    (parts : List Text) :
    literal.resumeAll (part :: parts) = .stillOpen further :: further.resumeAll parts := by
  rw [resumeAll, opened]

/-- The last of the results over the parts is the result over all of them at once. -/
theorem Formed.resumeAll_flatten (formed : literal.Formed) {parts : List Text} (some : parts ≠ [])
    (present : ∀ part ∈ parts, part ≠ []) :
    ∃ results last, literal.resumeAll parts = results ++ [last] ∧
      literal.resume parts.flatten = last.behind (parts.take results.length).flatten.length := by
  induction parts generalizing literal with
  | nil => exact absurd rfl some
  | cons part parts ih =>
    have filled := present part List.mem_cons_self
    have later := fun other member => present other (List.mem_cons_of_mem _ member)
    cases resumed : literal.resume part with
    | closed token n =>
      refine ⟨[], .closed token n, resumeAll_closed resumed parts, ?_⟩
      rw [List.flatten_cons, formed.resume_append_closed filled resumed]
      exact (Resumed.behind_zero _).symm
    | stillOpen further =>
      by_cases ended : parts = []
      · subst ended
        refine ⟨[], .stillOpen further, resumeAll_open resumed [], ?_⟩
        rw [List.flatten_singleton, resumed]
        rfl
      · obtain ⟨results, last, all, whole⟩ :=
          ih ((GoesOn.across resumed (.here _)).formed formed) ended later
        obtain ⟨first, others, same⟩ := List.exists_cons_of_ne_nil ended
        have more : parts.flatten ≠ [] := by
          intro empty
          exact later first (same ▸ List.mem_cons_self) (List.flatten_eq_nil_iff.mp empty first
            (same ▸ List.mem_cons_self))
        refine ⟨.stillOpen further :: results, last, ?_, ?_⟩
        · rw [resumeAll_open resumed, all, List.cons_append]
        · rw [List.flatten_cons, formed.resume_append_open resumed more, whole,
            Resumed.behind_behind, List.length_cons, List.take_succ_cons, List.flatten_cons,
            List.length_append]

end OpenLiteral

/--
For every literal that is reached from one that a scan leaves open: a text that is read as two parts
comes to what the whole of it does, and so does a text that is read part by part, one after the
other, with the characters of all parts counted.
-/
theorem Card.resume_parts {card : Card} {offset : Nat} {found literal : OpenLiteral}
    {bodies : List Text} (scanned : .unclosed found ∈ card.entriesFrom offset)
    (reached : found.GoesOn bodies literal) :
    (∀ front back, front ≠ [] → back ≠ [] →
      (∀ token n, literal.resume front = .closed token n →
        literal.resume (front ++ back) = .closed token n) ∧
      ∀ further, literal.resume front = .stillOpen further →
        literal.resume (front ++ back) = (further.resume back).behind front.length) ∧
    ∀ parts, parts ≠ [] → (∀ part ∈ parts, part ≠ []) →
      ∃ results last, literal.resumeAll parts = results ++ [last] ∧
        literal.resume parts.flatten =
          last.behind (parts.take results.length).flatten.length := by
  have formed := reached.formed (card.unclosed_formed scanned).2.1
  constructor
  · intro front back filled present
    constructor
    · intro token n closed
      exact formed.resume_append_closed filled closed back
    · intro further opened
      exact formed.resume_append_open opened present
  · intro parts some present
    exact formed.resumeAll_flatten some present

/-- A delimiter at the edge is doubled, then comes a character, then two delimiters and one more. -/
def edgeParts : List Text := ["'", "S", "''", "'+"].map String.toList

theorem Card.resume_parts_doubled :
    ∃ results last, edgeLiteral.resumeAll edgeParts = results ++ [last] ∧
      edgeLiteral.resume "'S'''+".toList =
        last.behind (edgeParts.take results.length).flatten.length :=
  (resume_parts edgeLiteral_scanned (.here _)).2 edgeParts (by decide) (by decide)

end CardDeck
