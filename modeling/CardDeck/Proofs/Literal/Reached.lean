import CardDeck.Proofs.Token.Entry

set_option autoImplicit false

namespace CardDeck

/-- Text that leaves a literal open, and then the delimiter that closes it. -/
def Terminated (delimiter : Char) (text : Text) : Prop :=
  ∃ inner, Inner delimiter inner ∧ text = inner ++ [delimiter]

/-- A whole literal: the delimiter that opens it, and the text up to the one that closes it. -/
def Enclosed (delimiter : Char) (text : Text) : Prop :=
  ∃ content, Terminated delimiter content ∧ text = delimiter :: content

theorem Inner.not_terminated {delimiter : Char} {text : Text} (inner : Inner delimiter text) :
    ¬ Terminated delimiter text := by
  rintro ⟨front, before, rfl⟩
  have opened := closing?_of_inner inner
  rw [closing?_of_closes before (by simp)] at opened
  cases opened

theorem Inner.count_even {delimiter : Char} {text : Text} (inner : Inner delimiter text) :
    text.count delimiter % 2 = 0 := by
  induction inner with
  | nil => rfl
  | char other _ ih => rw [List.count_cons_of_ne other, ih]
  | doubled _ ih =>
    rw [List.count_cons_self, List.count_cons_self]
    omega

theorem Terminated.count_odd {delimiter : Char} {text : Text}
    (terminated : Terminated delimiter text) : text.count delimiter % 2 = 1 := by
  obtain ⟨inner, before, rfl⟩ := terminated
  have pairs := before.count_even
  rw [List.count_append, List.count_singleton_self]
  omega

theorem terminated_take {delimiter : Char} {text : Text} {n : Nat}
    (closed : closing? delimiter text = some n) :
    Terminated delimiter (text.take n) ∧ text[n]? ≠ some delimiter := by
  obtain ⟨front, back, rfl, inner, alone, rfl⟩ := closing?_eq_some_iff.mp closed
  constructor
  · refine ⟨front, inner, ?_⟩
    rw [List.take_length_add_append]
    rfl
  · rw [List.getElem?_append_right (Nat.le_succ _), Nat.succ_sub (Nat.le_refl _), Nat.sub_self,
      List.getElem?_cons_succ, ← List.head?_eq_getElem?]
    exact alone

namespace OpenLiteral

/-- A literal is gone on with over bodies none of which closes it, and another one comes of it. -/
inductive GoesOn : OpenLiteral → List Text → OpenLiteral → Prop where
  | here (literal : OpenLiteral) : GoesOn literal [] literal
  | across {literal further last : OpenLiteral} {body : Text} {bodies : List Text}
    (opened : literal.resume body = .stillOpen further) (rest : GoesOn further bodies last) :
    GoesOn literal (body :: bodies) last

namespace GoesOn

variable {literal last : OpenLiteral} {bodies : List Text}

theorem kept (reached : literal.GoesOn bodies last) :
    last.delimiter = literal.delimiter ∧ last.position = literal.position ∧
      last.text = literal.text ++ bodies.flatten := by
  induction reached with
  | here literal => exact ⟨rfl, rfl, (List.append_nil _).symm⟩
  | across opened rest ih =>
    obtain ⟨rfl, -⟩ := resume_eq_stillOpen opened
    obtain ⟨delimiter, position, text⟩ := ih
    refine ⟨delimiter, position, ?_⟩
    rw [text, prolonged_text, List.flatten_cons, List.append_assoc]

theorem formed (reached : literal.GoesOn bodies last) (formed : literal.Formed) : last.Formed := by
  induction reached with
  | here literal => exact formed
  | across opened rest ih =>
    obtain ⟨rfl, whole⟩ := resume_eq_stillOpen opened
    exact ih (formed.prolonged whole)

end GoesOn

/-- What the text of an open literal says of its end. -/
structure Told (literal : OpenLiteral) : Prop where
  content : ∃ content, literal.text = literal.delimiter :: content ∧
    (literal.closedAtEdge = true ↔ Terminated literal.delimiter content) ∧
    (literal.closedAtEdge = false ↔ Inner literal.delimiter content)
  /-- A literal that is closed at the edge has its delimiters in pairs, the first one counted. -/
  parity : literal.closedAtEdge = true ↔ literal.text.count literal.delimiter % 2 = 0
  finished : Enclosed literal.delimiter literal.text →
    literal.finish = .ok ⟨.character, literal.text, literal.position⟩
  unfinished : ¬ Enclosed literal.delimiter literal.text →
    literal.finish = .error (.unterminatedLiteral literal.text literal.position)
  /-- A body that closes the literal does so behind a delimiter that no other one follows. -/
  closes : ∀ body token consumed, literal.resume body = .closed token consumed →
    consumed ≤ body.length ∧
    token = ⟨.character, literal.text ++ body.take consumed, literal.position⟩ ∧
    Enclosed literal.delimiter token.lexeme ∧ body[consumed]? ≠ some literal.delimiter
  opens : ∀ body further, literal.resume body = .stillOpen further →
    further.text = literal.text ++ body

variable {literal : OpenLiteral}

theorem Formed.content (formed : literal.Formed) :
    ∃ content, literal.text = literal.delimiter :: content ∧
      (literal.closedAtEdge = true ↔ Terminated literal.delimiter content) ∧
      (literal.closedAtEdge = false ↔ Inner literal.delimiter content) := by
  obtain ⟨content, text, closing⟩ := formed_iff.mp formed
  refine ⟨content, text, ?_⟩
  cases edge : literal.closedAtEdge with
  | true =>
    rw [edge, if_pos rfl] at closing
    have terminated := (terminated_take closing).1
    rw [List.take_length] at terminated
    exact ⟨⟨fun _ => terminated, fun _ => rfl⟩, Bool.noConfusion,
      fun inner => absurd terminated inner.not_terminated⟩
  | false =>
    rw [edge, if_neg Bool.false_ne_true] at closing
    have inner := closing?_eq_none_iff.mp closing
    exact ⟨⟨Bool.noConfusion, fun terminated => absurd terminated inner.not_terminated⟩,
      fun _ => inner, fun _ => rfl⟩

theorem Formed.enclosed_iff (formed : literal.Formed) :
    Enclosed literal.delimiter literal.text ↔ literal.closedAtEdge = true := by
  obtain ⟨content, text, edge, -⟩ := formed.content
  rw [edge, text]
  constructor
  · rintro ⟨other, terminated, same⟩
    rwa [(List.cons.inj same).2]
  · intro terminated
    exact ⟨content, terminated, rfl⟩

theorem Formed.parity (formed : literal.Formed) :
    literal.closedAtEdge = true ↔ literal.text.count literal.delimiter % 2 = 0 := by
  obtain ⟨content, text, closed, opened⟩ := formed.content
  rw [text, List.count_cons_self]
  cases edge : literal.closedAtEdge with
  | true =>
    have odd := (closed.mp edge).count_odd
    constructor
    · intro _
      omega
    · intro _
      rfl
  | false =>
    have even := (opened.mp edge).count_even
    constructor
    · intro impossible
      cases impossible
    · intro impossible
      omega

theorem Formed.enclosed_take (formed : literal.Formed) {body : Text} {n : Nat}
    (closing : literal.closingIn? body = some n) :
    Enclosed literal.delimiter (literal.text ++ body.take n) ∧
      body[n]? ≠ some literal.delimiter := by
  obtain ⟨content, text, -⟩ := formed_iff.mp formed
  have whole := formed.closing?_append body
  rw [closing, Option.map_some, text, List.tail_cons] at whole
  obtain ⟨terminated, alone⟩ := terminated_take whole
  rw [List.take_length_add_append] at terminated
  rw [List.getElem?_append_right (Nat.le_add_right _ _), Nat.add_sub_cancel_left] at alone
  exact ⟨⟨content ++ body.take n, terminated, by rw [text, List.cons_append]⟩, alone⟩

theorem Formed.told (formed : literal.Formed) : literal.Told where
  content := formed.content
  parity := formed.parity
  finished enclosed := by rw [finish, if_pos (formed.enclosed_iff.mp enclosed), token]
  unfinished broken := by
    rw [finish, if_neg fun edge => broken (formed.enclosed_iff.mpr edge)]
  closes body token consumed closed := by
    obtain ⟨rfl, closing, -⟩ := resume_eq_token closed
    exact ⟨closingIn?_le closing, rfl, formed.enclosed_take closing⟩
  opens body further opened := by
    obtain ⟨rfl, -⟩ := resume_eq_stillOpen opened
    rfl

end OpenLiteral

/-- A literal that a scan leaves open is formed, and is all that is left of the card behind it. -/
theorem Card.unclosed_formed {card : Card} {offset : Nat} {found : OpenLiteral}
    (scanned : .unclosed found ∈ card.entriesFrom offset) :
    isDelimiter found.delimiter = true ∧ found.Formed ∧ ∃ index, offset ≤ index ∧
      found.position = card.placeOf index ∧ found.text = card.body.drop index := by
  obtain ⟨before, c, rest, body, -, same⟩ := exists_front_of_mem_entries scanned
  rcases Entry.front_cases ((card.placeOf offset).right before.length) c rest with
    ⟨n, -, -, -, other⟩ | ⟨literal, quote, delimiter, text, position, formed, here⟩ |
      ⟨kind, n, -, -, other⟩ | ⟨-, -, other⟩
  · rw [other] at same
    cases same
  · rw [here] at same
    cases same
    refine ⟨delimiter ▸ quote, formed, offset + before.length, Nat.le_add_right _ _, ?_, ?_⟩
    · rw [position, placeOf, placeOf, Position.right, Nat.add_assoc]
    · rw [text, ← List.drop_drop, body, List.drop_left]
  · rw [other] at same
    cases same
  · rw [other] at same
    cases same

/--
Whatever is reached from a literal that a scan leaves open, and over whatever bodies: it stands
where its first delimiter does, its text is all that was read from there on, and that text tells how
it stands, what ends it and what comes of it at the end. No text has both of the forms that a text
behind the first delimiter can have.
-/
theorem Card.goesOn_told {card : Card} {offset : Nat} {found literal : OpenLiteral}
    {bodies : List Text} (scanned : .unclosed found ∈ card.entriesFrom offset)
    (reached : found.GoesOn bodies literal) :
    literal.Told ∧ isDelimiter literal.delimiter = true ∧
      (∃ index, offset ≤ index ∧ card.body[index]? = some literal.delimiter ∧
        literal.position = card.placeOf index ∧
        literal.text = card.body.drop index ++ bodies.flatten) ∧
      ∀ content, ¬ (Inner literal.delimiter content ∧ Terminated literal.delimiter content) := by
  obtain ⟨quote, formed, index, behind, place, front⟩ := card.unclosed_formed scanned
  obtain ⟨delimiter, position, text⟩ := reached.kept
  refine ⟨(reached.formed formed).told, delimiter ▸ quote, ⟨index, behind, ?_, ?_, ?_⟩, ?_⟩
  · obtain ⟨content, first, -⟩ := formed.content
    rw [delimiter, ← List.head?_drop, ← front, first, List.head?_cons]
  · rw [position, place]
  · rw [text, front]
  · rintro content ⟨inner, terminated⟩
    exact inner.not_terminated terminated

/-- A card whose last column has a delimiter that the next one may double. -/
def edgeCard : Card := Card.ofLine 1 ("      'IT".toList ++ List.replicate 62 '-' ++ ['\''])

def edgeLiteral : OpenLiteral := ⟨'\'', edgeCard.body, ⟨1, 7⟩, true⟩

theorem edgeLiteral_scanned : .unclosed edgeLiteral ∈ edgeCard.entriesFrom 0 := by decide +kernel

/-- One body doubles the delimiter, an empty one changes nothing, and one closes the literal. -/
theorem Card.goesOn_told_edge :
    ∃ literal : OpenLiteral, edgeLiteral.GoesOn ["'".toList, [], "S'".toList] literal ∧
      literal.Told ∧ literal.text = edgeCard.body ++ "'S'".toList ∧
      literal.closedAtEdge = true := by
  have doubled : edgeLiteral.resume "'".toList =
      .stillOpen ⟨'\'', edgeCard.body ++ "'".toList, ⟨1, 7⟩, false⟩ := by decide +kernel
  have unread : OpenLiteral.resume ⟨'\'', edgeCard.body ++ "'".toList, ⟨1, 7⟩, false⟩ [] =
      .stillOpen ⟨'\'', edgeCard.body ++ "'".toList, ⟨1, 7⟩, false⟩ := by decide +kernel
  have closed : OpenLiteral.resume ⟨'\'', edgeCard.body ++ "'".toList, ⟨1, 7⟩, false⟩ "S'".toList =
      .stillOpen ⟨'\'', edgeCard.body ++ "'S'".toList, ⟨1, 7⟩, true⟩ := by decide +kernel
  have reached := OpenLiteral.GoesOn.across doubled (.across unread (.across closed (.here _)))
  exact ⟨_, reached, (goesOn_told edgeLiteral_scanned reached).1, rfl, rfl⟩

end CardDeck
