import CardDeck.Proofs.Literal.Closing
import CardDeck.Proofs.Token.Entry
import CardDeck.Proofs.Token.Longest

set_option autoImplicit false

namespace CardDeck

/-- The literal ends on the card: another character stands behind the delimiter that closes it. -/
def Closes (delimiter : Char) (rest inner : Text) : Prop :=
  Inner delimiter inner ∧ ∃ d after, d ≠ delimiter ∧ rest = inner ++ delimiter :: d :: after

namespace Entry

/-- What a step takes where a character that is not white stands before the rest of the body. -/
inductive Scanned (position : Position) (c : Char) (rest : Text) : Entry → Prop where
  | parted {digits : Text} (plain : isDelimiter c = false) (parted : Parted (c :: rest) digits) :
    Scanned position c rest (.token ⟨.integer, digits, position⟩)
  | longest {kind : TokenKind} {lexeme : Text} (plain : isDelimiter c = false)
    (free : ∀ digits, ¬ Parted (c :: rest) digits)
    (longest : Longest Lexical (c :: rest) lexeme)
    (form : ∀ other : TokenKind, other.Language lexeme ↔ other = kind) :
    Scanned position c rest (.token ⟨kind, lexeme, position⟩)
  | stray (plain : isDelimiter c = false) (never : ∀ text, text <+: c :: rest → ¬ Lexical text) :
    Scanned position c rest (.stray c position)
  | closed {inner : Text} (quote : isDelimiter c = true) (closes : Closes c rest inner) :
    Scanned position c rest (.token ⟨.character, c :: (inner ++ [c]), position⟩)
  | unclosed {edge : Bool} (quote : isDelimiter c = true) (never : ∀ inner, ¬ Closes c rest inner)
    (last : edge = true ↔ ∃ inner, Inner c inner ∧ rest = inner ++ [c]) :
    Scanned position c rest (.unclosed ⟨c, c :: rest, position, edge⟩)

variable {position : Position} {c : Char} {rest : Text}

theorem literal_of_closes {inner : Text} (closes : Closes c rest inner) :
    literal position c rest = .token ⟨.character, c :: (inner ++ [c]), position⟩ := by
  obtain ⟨inside, d, after, other, rfl⟩ := closes
  have alone : (d :: after).head? ≠ some c := fun same => other (Option.some.inj same)
  have within : inner.length + 1 < (inner ++ c :: d :: after).length := by
    rw [List.length_append, List.length_cons, List.length_cons]
    omega
  rw [literal, closing?_of_closes inside alone]
  dsimp only
  rw [if_pos within, List.take_length_add_append]
  rfl

theorem literal_of_last {inner : Text} (inside : Inner c inner) :
    literal position c (inner ++ [c]) =
      .unclosed ⟨c, c :: (inner ++ [c]), position, true⟩ := by
  have alone : ([] : Text).head? ≠ some c := Option.some_ne_none c |>.symm
  have whole : ¬ inner.length + 1 < (inner ++ [c]).length := by
    rw [List.length_append, List.length_singleton]
    exact Nat.lt_irrefl _
  rw [literal, closing?_of_closes inside alone]
  exact if_neg whole

theorem literal_of_inner (inside : Inner c rest) :
    literal position c rest = .unclosed ⟨c, c :: rest, position, false⟩ := by
  rw [literal, closing?_of_inner inside]

/-- A literal closes on the card or at its edge, or is left open. -/
theorem literal_forms (c : Char) (rest : Text) :
    (∃ inner, Closes c rest inner) ∨ (∃ inner, Inner c inner ∧ rest = inner ++ [c]) ∨
      Inner c rest := by
  rcases inner_or_closes c rest with inside | ⟨inner, back, rfl, inside, alone⟩
  · exact Or.inr (Or.inr inside)
  · cases back with
    | nil => exact Or.inr (Or.inl ⟨inner, inside, rfl⟩)
    | cons d after =>
      have other : d ≠ c := fun same => alone (congrArg some same)
      exact Or.inl ⟨inner, inside, d, after, other, rfl⟩

theorem not_closes_of_unclosed {found : OpenLiteral}
    (opened : literal position c rest = .unclosed found) (inner : Text) :
    ¬ Closes c rest inner := by
  intro closes
  rw [literal_of_closes closes] at opened
  cases opened

theorem scanned_literal (quote : isDelimiter c = true) :
    Scanned position c rest (literal position c rest) := by
  rcases literal_forms c rest with ⟨inner, closes⟩ | ⟨inner, inside, rfl⟩ | inside
  · rw [literal_of_closes closes]
    exact .closed quote closes
  · have opened := @literal_of_last position c inner inside
    rw [opened]
    exact .unclosed quote (not_closes_of_unclosed opened)
      ⟨fun _ => ⟨inner, inside, rfl⟩, fun _ => rfl⟩
  · have opened := @literal_of_inner position c rest inside
    rw [opened]
    refine .unclosed quote (not_closes_of_unclosed opened) ⟨fun edge => ?_, ?_⟩
    · cases edge
    · rintro ⟨inner, before, rfl⟩
      rw [literal_of_last before] at opened
      cases opened

theorem front_of_lexeme {kind : TokenKind} {n : Nat} (plain : isDelimiter c = false)
    (found : lexeme? c rest = some (kind, n)) :
    front position c rest = .token ⟨kind, (c :: rest).take n, position⟩ := by
  rw [front, plain, if_neg Bool.false_ne_true, found]

theorem front_of_none (plain : isDelimiter c = false) (none : lexeme? c rest = none) :
    front position c rest = .stray c position := by
  rw [front, plain, if_neg Bool.false_ne_true, none]

theorem front_of_parted {digits : Text} (plain : isDelimiter c = false)
    (parted : Parted (c :: rest) digits) :
    front position c rest = .token ⟨.integer, digits, position⟩ := by
  rw [front_of_lexeme plain (lexeme?_of_parted parted)]
  obtain ⟨-, word, after, -, same⟩ := parted
  rw [same, List.take_left]

/-- What a step takes is told from the grammar. -/
theorem scanned_front (position : Position) (c : Char) (rest : Text) :
    Scanned position c rest (front position c rest) := by
  cases quote : isDelimiter c with
  | true =>
    rw [front, if_pos quote]
    exact scanned_literal quote
  | false =>
    by_cases parted : ∃ digits, Parted (c :: rest) digits
    · obtain ⟨digits, parted⟩ := parted
      rw [front_of_parted quote parted]
      exact .parted quote parted
    have free : ∀ digits, ¬ Parted (c :: rest) digits := not_exists.mp parted
    cases found : lexeme? c rest with
    | none =>
      rw [front_of_none quote found]
      refine .stray quote fun text front member => ?_
      obtain ⟨kind, form⟩ := member
      obtain ⟨after, same⟩ := front
      obtain ⟨other, n, taken, -⟩ := le_lexeme? form same.symm free
      rw [found] at taken
      cases taken
    | some lexeme =>
      obtain ⟨kind, n⟩ := lexeme
      have form := lexeme?_language found
      rw [front_of_lexeme quote found]
      refine .longest quote free ⟨List.take_prefix _ _, ⟨kind, form⟩, ?_⟩ fun other =>
        ⟨form.kind_unique, ?_⟩
      · rintro text ⟨after, same⟩ ⟨other, form'⟩
        obtain ⟨kind', m, taken, bound⟩ := le_lexeme? form' same.symm free
        rw [found] at taken
        cases taken
        rw [List.length_take, List.length_cons, Nat.min_eq_left (lexeme?_length_le found)]
        exact bound
      · rintro rfl
        exact form

/-- The grammar leaves a step no choice. -/
theorem Scanned.eq_front {entry : Entry} (scanned : Scanned position c rest entry) :
    entry = front position c rest := by
  cases scanned with
  | parted plain parted => exact (front_of_parted plain parted).symm
  | @longest kind lexeme plain free longest form =>
    obtain ⟨after, same⟩ := longest.front
    obtain ⟨other, n, found, bound⟩ := le_lexeme? ((form kind).mpr rfl) same.symm free
    have language := lexeme?_language found
    have cut : ((c :: rest).take n).length = n := by
      rw [List.length_take, List.length_cons, Nat.min_eq_left (lexeme?_length_le found)]
    have longest' : Longest Lexical (c :: rest) ((c :: rest).take n) := by
      refine ⟨List.take_prefix _ _, ⟨other, language⟩, fun text front member => ?_⟩
      rw [cut]
      exact Nat.le_trans (longest.bound text front member) bound
    have taken : (c :: rest).take n = lexeme := longest.eq longest'
    rw [taken] at language
    rw [front_of_lexeme plain found, taken, (form other).mp language]
  | stray plain never =>
    cases found : lexeme? c rest with
    | none => exact (front_of_none plain found).symm
    | some lexeme =>
      exact absurd ⟨lexeme.1, lexeme?_language found⟩ (never _ (List.take_prefix _ _))
  | closed quote closes => exact ((if_pos quote).trans (literal_of_closes closes)).symm
  | @unclosed edge quote never last =>
    rw [front, if_pos quote]
    rcases literal_forms c rest with ⟨inner, closes⟩ | closed | inside
    · exact absurd closes (never inner)
    · obtain rfl := last.mpr closed
      obtain ⟨inner, before, rfl⟩ := closed
      exact (literal_of_last before).symm
    · have opened := @literal_of_inner position c rest inside
      cases edge with
      | false => exact opened.symm
      | true =>
        obtain ⟨inner, before, rfl⟩ := last.mp rfl
        rw [literal_of_last before] at opened
        cases opened

theorem scanned_iff {entry : Entry} :
    Scanned position c rest entry ↔ entry = front position c rest := by
  constructor
  · exact Scanned.eq_front
  · rintro rfl
    exact scanned_front position c rest

end Entry

namespace Card

/--
Each step of scanning a body starts at a character that is not white, and takes what the grammar
says of the characters from there on: an entry of the card is what can be taken at its place and
nothing else is.
-/
theorem entriesFrom_scanned (card : Card) (offset : Nat) :
    (∀ entry ∈ card.entriesFrom offset, ∃ index c rest, offset ≤ index ∧
      card.body.drop index = c :: rest ∧ isWhite c = false ∧
      ∀ other, Entry.Scanned (card.placeOf index) c rest other ↔ other = entry) ∧
    ∀ c rest, card.body.drop offset = c :: rest → isWhite c = false →
      ∀ entry, Entry.Scanned (card.placeOf offset) c rest entry ↔
        (card.entriesFrom offset).head? = some entry := by
  constructor
  · intro entry member
    obtain ⟨before, c, rest, body, plain, found⟩ := exists_front_of_mem_entries member
    refine ⟨offset + before.length, c, rest, Nat.le_add_right _ _, ?_, plain, fun other => ?_⟩
    · rw [← List.drop_drop, body, List.drop_left]
    · rw [found, Entry.scanned_iff, placeOf, placeOf, Position.right, Nat.add_assoc]
  · intro c rest body plain entry
    have first : ¬ isWhite c = true := Bool.eq_false_iff.mp plain
    rw [Entry.scanned_iff, entriesFrom, body, entries, if_neg first, List.head?_cons,
      Option.some.injEq, eq_comm]

/-- Numbers beside points and dotted words, a lone point, and literals with and without an end. -/
def munchedCard : Card :=
  ofLine 1 "      1.E5+1.E.5**1..2=2E+ .5.EQ.X_1 . 'IT''S'/ \"A'".toList

theorem entriesFrom_scanned_munched :
    (munchedCard.entriesFrom 0).map Entry.text =
      ["1.E5", "+", "1", ".E.", "5", "**", "1.", ".2", "=", "2", "E", "+", ".5", ".EQ.", "X_1",
        ".", "'IT''S'", "/", "\"A'                     "].map String.toList ∧
    ∀ entry, Entry.Scanned (munchedCard.placeOf 0) '1' (munchedCard.body.drop 1) entry ↔
      (munchedCard.entriesFrom 0).head? = some entry := by
  refine ⟨?_, (entriesFrom_scanned munchedCard 0).2 '1' (munchedCard.body.drop 1) ?_ ?_⟩
  · decide +kernel
  · decide
  · decide

end Card

end CardDeck
