import CardDeck.Proofs.Statement.Groups

/-!
The joined text of the cards of a statement, and the tokens that it is read as.

A lexer that has all the text before it takes literals over the edges of cards, and any other
lexeme from what stands on one card. Reading card by card, with a literal open at the edge and a
delimiter there that may be the first of two, comes to the same tokens and the same error.
-/

set_option autoImplicit false

namespace CardDeck

/-- The error is about a character or a literal, and not about the number of cards. -/
def LexError.isScanning : LexError → Bool
  | strayCharacter _ _ => true
  | unterminatedLiteral _ _ => true
  | tooManyContinuations _ _ => false

/-- The tokens of a text, and the error that ends them. -/
structure Lexed where
  tokens : List Token
  error : Option LexError
deriving DecidableEq, Repr

def Lexed.after (token : Token) (later : Lexed) : Lexed :=
  { later with tokens := token :: later.tokens }

namespace Joined

/-- The bodies of the cards, one after the other. -/
def text (cards : List Card) : Text := cards.flatMap Card.body

/-- Where the character that has the index in the joined text stands on the cards. -/
def place (cards : List Card) (index : Nat) : Position :=
  ⟨(cards.map Card.line).getD (index / bodyWidth) 0, bodyColumn + index % bodyWidth⟩

/-- Number of characters that stand after the index on the same card. -/
def room (index : Nat) : Nat := bodyWidth - 1 - index % bodyWidth

/--
The tokens of the joined text from the index on, where the text that is left is given. A literal is
looked for in all of it (`closing?_eq_some_iff` tells where it closes), another lexeme up to the
edge of the card.
-/
def lexFrom (cards : List Card) (index : Nat) : Text → Lexed
  | [] => ⟨[], none⟩
  | c :: rest =>
    if isWhite c then
      lexFrom cards (index + 1) rest
    else if isDelimiter c then
      match closing? c rest with
      | some n =>
        (lexFrom cards (index + (1 + n)) (rest.drop n)).after
          ⟨.character, c :: rest.take n, place cards index⟩
      | none => ⟨[], some (.unterminatedLiteral (c :: rest) (place cards index))⟩
    else
      match _ : lexeme? c (rest.take (room index)) with
      | some (kind, length) =>
        (lexFrom cards (index + length) ((c :: rest).drop length)).after
          ⟨kind, (c :: rest).take length, place cards index⟩
      | none => ⟨[], some (.strayCharacter c (place cards index))⟩
termination_by text => text.length
decreasing_by
  · exact Nat.lt_succ_self _
  · rw [List.length_drop, List.length_cons]
    omega
  · have positive := lexeme?_length_pos (by assumption)
    rw [List.length_drop, List.length_cons]
    omega

/-- The tokens of all that stands on the cards. -/
def lex (cards : List Card) : Lexed := lexFrom cards 0 (text cards)

@[simp] theorem text_nil : text [] = [] := rfl

@[simp] theorem lexFrom_nil (cards : List Card) (index : Nat) :
    lexFrom cards index [] = ⟨[], none⟩ := by
  rw [lexFrom]

theorem lexFrom_white {cards : List Card} {index : Nat} {c : Char} (white : isWhite c = true)
    (rest : Text) : lexFrom cards index (c :: rest) = lexFrom cards (index + 1) rest := by
  rw [lexFrom, if_pos white]

theorem isWhite_of_isDelimiter {c : Char} (delimiter : isDelimiter c = true) :
    isWhite c = false := by
  rcases Bool.or_eq_true_iff.mp delimiter with single | double
  · rw [beq_iff_eq.mp single]
    decide
  · rw [beq_iff_eq.mp double]
    decide

theorem lexFrom_closed {cards : List Card} {index n : Nat} {c : Char} {rest : Text}
    (delimiter : isDelimiter c = true) (closed : closing? c rest = some n)
    (inside : n < rest.length) (more : Text) :
    lexFrom cards index (c :: (rest ++ more)) =
      (lexFrom cards (index + (1 + n)) (rest.drop n ++ more)).after
        ⟨.character, c :: rest.take n, place cards index⟩ := by
  rw [lexFrom, isWhite_of_isDelimiter delimiter, if_neg Bool.false_ne_true, if_pos delimiter,
    closing?_append_of_lt closed inside more]
  simp only [List.drop_append_of_le_length (Nat.le_of_lt inside),
    List.take_append_of_le_length (Nat.le_of_lt inside)]

theorem take_room {index : Nat} {rest : Text} (length : index + (rest.length + 1) = bodyWidth)
    (more : Text) : (rest ++ more).take (room index) = rest := by
  rw [room, Nat.mod_eq_of_lt (by omega)]
  apply List.take_left'
  omega

theorem lexFrom_lexeme {cards : List Card} {index n : Nat} {c : Char} {rest : Text}
    {kind : TokenKind} (plain : ¬ isWhite c = true) (other : isDelimiter c = false)
    (length : index + (rest.length + 1) = bodyWidth) (found : lexeme? c rest = some (kind, n))
    (more : Text) :
    lexFrom cards index (c :: (rest ++ more)) =
      (lexFrom cards (index + n) ((c :: rest).drop n ++ more)).after
        ⟨kind, (c :: rest).take n, place cards index⟩ := by
  have fits : n ≤ (c :: rest).length := lexeme?_length_le found
  rw [lexFrom, if_neg plain, other, if_neg Bool.false_ne_true, take_room length, found]
  simp only [← List.cons_append, List.drop_append_of_le_length fits,
    List.take_append_of_le_length fits]

theorem lexFrom_stray {cards : List Card} {index : Nat} {c : Char} {rest : Text}
    (plain : ¬ isWhite c = true) (other : isDelimiter c = false)
    (length : index + (rest.length + 1) = bodyWidth) (none : lexeme? c rest = none) (more : Text) :
    lexFrom cards index (c :: (rest ++ more)) =
      ⟨[], some (.strayCharacter c (place cards index))⟩ := by
  rw [lexFrom, if_neg plain, other, if_neg Bool.false_ne_true, take_room length, none]

theorem place_of_lt {card : Card} {cards : List Card} {index : Nat} (inside : index < bodyWidth) :
    place (card :: cards) index = card.placeOf index := by
  rw [place, Nat.div_eq_of_lt inside, Nat.mod_eq_of_lt inside]
  rfl

theorem place_add (card : Card) (cards : List Card) (index : Nat) :
    place (card :: cards) (bodyWidth + index) = place cards index := by
  have positive : 0 < bodyWidth := by decide
  rw [place, place, Nat.add_div_left index positive, Nat.add_mod_left]
  rfl

theorem room_add (index : Nat) : room (bodyWidth + index) = room index := by
  rw [room, room, Nat.add_mod_left]

/-- The cards that were read already make no difference to what comes after them. -/
theorem lexFrom_add (card : Card) (cards : List Card) (index : Nat) (rest : Text) :
    lexFrom (card :: cards) (bodyWidth + index) rest = lexFrom cards index rest := by
  fun_induction lexFrom cards index rest with
  | case1 index => rw [lexFrom]
  | case2 index c rest white ih => rw [lexFrom_white white, Nat.add_assoc, ih]
  | case3 index c rest plain delimiter n closed ih =>
    rw [lexFrom, if_neg plain, if_pos delimiter, closed]
    simp only [place_add, Nat.add_assoc] at ih ⊢
    rw [ih]
  | case4 index c rest plain delimiter opened =>
    rw [lexFrom, if_neg plain, if_pos delimiter, opened]
    simp only [place_add]
  | case5 index c rest plain other kind length found ih =>
    rw [lexFrom, if_neg plain, if_neg other, room_add, found]
    simp only [place_add, Nat.add_assoc] at ih ⊢
    rw [ih]
  | case6 index c rest plain other none =>
    rw [lexFrom, if_neg plain, if_neg other, room_add, none]
    simp only [place_add]

/-- The tokens from the index on, where a literal is open that began before the text. -/
def lexInside (literal : OpenLiteral) (cards : List Card) (index : Nat) (rest : Text) : Lexed :=
  match literal.closingIn? rest with
  | some n =>
    (lexFrom cards (index + n) (rest.drop n)).after
      ⟨.character, literal.text ++ rest.take n, literal.position⟩
  | none => ⟨[], some (.unterminatedLiteral (literal.text ++ rest) literal.position)⟩

theorem lexInside_some {literal : OpenLiteral} {rest : Text} {n : Nat}
    (closed : literal.closingIn? rest = some n) (cards : List Card) (index : Nat) :
    lexInside literal cards index rest =
      (lexFrom cards (index + n) (rest.drop n)).after
        ⟨.character, literal.text ++ rest.take n, literal.position⟩ := by
  rw [lexInside, closed]

theorem lexInside_none {literal : OpenLiteral} {rest : Text}
    (opened : literal.closingIn? rest = none) (cards : List Card) (index : Nat) :
    lexInside literal cards index rest =
      ⟨[], some (.unterminatedLiteral (literal.text ++ rest) literal.position)⟩ := by
  rw [lexInside, opened]

theorem lexInside_add (literal : OpenLiteral) (card : Card) (cards : List Card) (index : Nat)
    (rest : Text) :
    lexInside literal (card :: cards) (bodyWidth + index) rest =
      lexInside literal cards index rest := by
  unfold lexInside
  split
  · rw [Nat.add_assoc, lexFrom_add]
  · rfl

theorem lexFrom_literal {literal : OpenLiteral} (formed : literal.Formed) {cards : List Card}
    {index : Nat} (delimiter : isDelimiter literal.delimiter = true)
    (here : literal.position = place cards index) (rest : Text) :
    lexFrom cards index (literal.text ++ rest) =
      lexInside literal cards (index + literal.text.length) rest := by
  obtain ⟨content, text, -⟩ := OpenLiteral.formed_iff.mp formed
  have closing := formed.closing?_append rest
  rw [text, List.tail_cons] at closing
  rw [text, List.cons_append, lexFrom, isWhite_of_isDelimiter delimiter,
    if_neg Bool.false_ne_true, if_pos delimiter, lexInside, closing]
  cases literal.closingIn? rest with
  | none => rw [Option.map_none, here, text, List.cons_append]
  | some n =>
    have index_eq : index + (1 + (content.length + n)) =
        index + (literal.delimiter :: content).length + n := by
      rw [List.length_cons]
      omega
    simp only [Option.map_some, index_eq, List.drop_append, List.take_append, here, text,
      Nat.add_sub_cancel_left, List.drop_eq_nil_of_le (Nat.le_add_right content.length n),
      List.take_of_length_le (Nat.le_add_right content.length n), List.nil_append,
      List.cons_append]

theorem lexInside_append {literal : OpenLiteral} (formed : literal.Formed) {body : Text}
    (whole : ∀ n, literal.closingIn? body = some n → body.length ≤ n) (cards : List Card)
    (index : Nat) (rest : Text) :
    lexInside literal cards index (body ++ rest) =
      lexInside (literal.prolonged body) cards (index + body.length) rest := by
  rw [lexInside, lexInside, formed.closingIn?_append_of_le whole]
  cases (literal.prolonged body).closingIn? rest with
  | none => simp only [Option.map_none, OpenLiteral.prolonged_text, OpenLiteral.prolonged_position,
      List.append_assoc]
  | some n =>
    simp only [Option.map_some, Nat.add_assoc, List.drop_append, List.take_append,
      Nat.add_sub_cancel_left, List.drop_eq_nil_of_le (Nat.le_add_right body.length n),
      List.take_of_length_le (Nat.le_add_right body.length n), List.nil_append,
      OpenLiteral.prolonged_text, OpenLiteral.prolonged_position, List.append_assoc]

end Joined

/-- An open literal is one that text can lead to. -/
def Progress.Formed : Progress → Prop
  | inside literal => literal.Formed
  | ready | stopped => True

/-- What the cards that are still to come add to what was found. -/
def Progress.outlook (cards : List Card) : Progress → Lexed
  | ready => Joined.lex cards
  | inside literal => Joined.lexInside literal cards 0 (Joined.text cards)
  | stopped => ⟨[], none⟩

/-- The tokens and the errors of scanning that a draft has with what is still to come. -/
def Draft.found (draft : Draft) (later : Lexed) : List Token × List LexError :=
  (draft.tokens ++ later.tokens, draft.errors.filter LexError.isScanning ++ later.error.toList)

theorem Draft.found_after (draft : Draft) (token : Token) (later : Lexed) :
    draft.found (later.after token) = (draft.push token).found later := by
  simp [Draft.found, Draft.push, Lexed.after]

/-- A card, and the error that there are too many of them, are nothing that is found in scanning. -/
theorem Draft.found_extend (limit : Option UInt64) (draft : Draft) (card : Card) (later : Lexed) :
    (draft.extend limit card).found later = draft.found later := by
  have none : (draft.limitErrors limit).filter LexError.isScanning = [] := by
    unfold limitErrors
    split
    · rfl
    · split <;> rfl
  rw [found, found, errors_extend, tokens_extend, List.filter_append, none, List.append_nil]

namespace Assembly

def found (assembly : Assembly) (cards : List Card) : List Token × List LexError :=
  assembly.draft.found (assembly.progress.outlook cards)

/-- Adding the entries of a body is reading the joined text from there on. -/
theorem enter_found {draft : Draft} {entered : Assembly} {card : Card} {index : Nat}
    {position : Position} {text : Text} (here : position = card.placeOf index)
    (length : index + text.length = bodyWidth) (cards : List Card)
    (done : enter draft (entries position text) = .ok entered) :
    entered.progress.Formed ∧
      entered.found cards =
        draft.found (Joined.lexFrom (card :: cards) index (text ++ Joined.text cards)) := by
  fun_induction entries position text generalizing draft index with
  | case1 position =>
    cases done
    refine ⟨trivial, ?_⟩
    rw [List.length_nil, Nat.add_zero] at length
    subst length
    have passed := Joined.lexFrom_add card cards 0 (Joined.text cards)
    rw [Nat.add_zero] at passed
    rw [List.nil_append, passed]
    rfl
  | case2 position c rest white ih =>
    rw [List.cons_append, Joined.lexFrom_white white]
    apply ih _ _ done
    · rw [here]
      rfl
    · rw [← length, List.length_cons]
      omega
  | case3 position c rest plain entry =>
    rename_i ih
    subst entry
    rw [List.length_cons] at length
    have place : Joined.place (card :: cards) index = position := by
      rw [Joined.place_of_lt (by omega), here]
    have fits := (Entry.front_text position c rest).2
    -- a token on the card: both go on behind it, so that only its own reading is left to compare
    have token_read : ∀ token, Entry.front position c rest = .token token →
        Joined.lexFrom (card :: cards) index (c :: (rest ++ Joined.text cards)) =
          (Joined.lexFrom (card :: cards) (index + token.lexeme.length)
            ((c :: rest).drop token.lexeme.length ++ Joined.text cards)).after token →
        entered.progress.Formed ∧ entered.found cards = draft.found
          (Joined.lexFrom (card :: cards) index (c :: (rest ++ Joined.text cards))) := by
      intro token same whole
      rw [same] at done fits ih
      obtain ⟨next, added, entering⟩ := Fault.bind_eq_ok.mp done
      obtain rfl := Draft.addToken_eq_ok added
      rw [whole, Draft.found_after]
      apply ih _ _ entering
      · rw [here, Card.placeOf, Card.placeOf, Position.right, Nat.add_assoc]
        rfl
      · have size : token.lexeme.length ≤ rest.length + 1 := fits
        rw [List.length_drop, List.length_cons]
        show index + token.lexeme.length + (rest.length + 1 - token.lexeme.length) = bodyWidth
        omega
    rcases Entry.front_cases position c rest with
      ⟨n, delimiter, closed, inside, same⟩ | ⟨literal, delimiter, first, text, spot, formed, same⟩ |
      ⟨kind, n, other, found, same⟩ | ⟨other, none, same⟩
    · apply token_read _ same
      have size : (c :: rest.take n).length = n + 1 := by
        rw [List.length_cons, List.length_take_of_le (Nat.le_of_lt inside)]
      rw [Joined.lexFrom_closed delimiter closed inside, place, size, Nat.add_comm 1 n,
        List.drop_succ_cons]
    · rw [same, enter] at done
      cases done
      refine ⟨formed, ?_⟩
      have whole : index + literal.text.length = bodyWidth + 0 := by
        rw [text, List.length_cons, Nat.add_zero]
        exact length
      rw [← text, Joined.lexFrom_literal formed (first ▸ delimiter) (spot.trans place.symm), whole,
        Joined.lexInside_add]
      rfl
    · apply token_read _ same
      have size : ((c :: rest).take n).length = n :=
        List.length_take_of_le (lexeme?_length_le found)
      rw [Joined.lexFrom_lexeme plain other length found, place, size]
    · rw [same, enter] at done
      cases done
      refine ⟨trivial, ?_⟩
      rw [List.cons_append, Joined.lexFrom_stray plain other length none, place]
      simp [Assembly.found, Draft.found, Draft.addError, Progress.outlook, LexError.isScanning]

theorem start_found {first : Card} {started : Assembly} (done : start first = .ok started)
    (cards : List Card) :
    started.progress.Formed ∧
      started.found cards = ((Joined.lex (first :: cards)).tokens,
        (Joined.lex (first :: cards)).error.toList) := by
  obtain ⟨formed, read⟩ := enter_found rfl (by
    rw [List.drop_zero, first.body_length, Nat.zero_add]) cards done
  exact ⟨formed, read⟩

/-- Joining a card takes it from what is still to come to what was found. -/
theorem join_found {options : Options} {assembly joined : Assembly} {card : Card}
    (formed : assembly.progress.Formed)
    (done : assembly.join options card = .ok joined) (cards : List Card) :
    joined.progress.Formed ∧ joined.found cards = assembly.found (card :: cards) := by
  obtain ⟨draft, extended, done⟩ := Fault.bind_eq_ok.mp done
  obtain rfl := Draft.join_eq_ok extended
  cases standing : assembly.progress with
  | ready =>
    simp only [standing] at done
    obtain ⟨further, read⟩ := enter_found rfl (by
      rw [List.drop_zero, card.body_length, Nat.zero_add]) cards done
    refine ⟨further, ?_⟩
    rw [read, Draft.found_extend, found, standing]
    rfl
  | stopped =>
    simp only [standing] at done
    cases done
    refine ⟨trivial, ?_⟩
    rw [found, found, Draft.found_extend, standing]
    rfl
  | inside literal =>
    rw [standing] at formed
    have opened : literal.Formed := formed
    have outlook : assembly.found (card :: cards) = assembly.draft.found
        (Joined.lexInside literal (card :: cards) 0 (card.body ++ Joined.text cards)) := by
      rw [found, standing]
      rfl
    rw [outlook]
    rcases literal.resume_cases card.body with ⟨n, closed, short, resumed⟩ | ⟨whole, resumed⟩
    · simp only [standing, resumed] at done
      obtain ⟨next, added, entering⟩ := Fault.bind_eq_ok.mp done
      obtain rfl := Draft.addToken_eq_ok added
      have width := card.body_length
      have inside : n < card.body.length := by
        rcases short with inside | empty
        · exact inside
        · rw [empty] at width
          cases width
      obtain ⟨further, read⟩ := enter_found rfl (by
        rw [List.length_drop]
        omega) cards entering
      refine ⟨further, ?_⟩
      rw [read, Joined.lexInside_some (opened.closingIn?_append_of_lt closed inside _),
        ← Draft.found_after, Draft.found_extend,
        List.drop_append_of_le_length (Nat.le_of_lt inside),
        List.take_append_of_le_length (Nat.le_of_lt inside), Nat.zero_add]
      rfl
    · simp only [standing, resumed] at done
      cases done
      refine ⟨opened.prolonged whole, ?_⟩
      rw [Joined.lexInside_append opened whole, card.body_length, Nat.zero_add,
        ← Nat.add_zero bodyWidth, Joined.lexInside_add, found, Draft.found_extend]
      rfl

theorem joinAll_found {options : Options} {assembly joined : Assembly} {cards : List Card}
    (formed : assembly.progress.Formed)
    (done : assembly.joinAll options cards = .ok joined) :
    joined.progress.Formed ∧ joined.found [] = assembly.found cards := by
  induction cards generalizing assembly with
  | nil =>
    cases done
    exact ⟨formed, rfl⟩
  | cons card cards ih =>
    obtain ⟨next, first, rest⟩ := Fault.bind_eq_ok.mp done
    obtain ⟨further, same⟩ := join_found formed first cards
    obtain ⟨result, read⟩ := ih further rest
    exact ⟨result, read.trans same⟩

/-- When no card is to come, all that is to be found is found, and the end is added. -/
theorem finish_found {assembly : Assembly} {statement : Statement}
    (done : assembly.finish = .ok statement) :
    statement.tokens =
        (assembly.found []).1 ++ [.statementEnd ⟨statement.lastLine, trailerColumn⟩] ∧
      statement.errors.filter LexError.isScanning = (assembly.found []).2 := by
  have nothing : Joined.lexFrom [] 0 [] = ⟨[], none⟩ := Joined.lexFrom_nil [] 0
  cases standing : assembly.progress with
  | ready =>
    simp only [finish, standing] at done
    cases done
    rw [found, standing, Draft.found, Progress.outlook, Joined.lex, Joined.text_nil, nothing,
      List.append_nil, Option.toList_none, List.append_nil]
    exact ⟨rfl, rfl⟩
  | stopped =>
    simp only [finish, standing] at done
    cases done
    rw [found, standing, Draft.found, Progress.outlook, List.append_nil, Option.toList_none,
      List.append_nil]
    exact ⟨rfl, rfl⟩
  | inside literal =>
    rw [found, standing, Progress.outlook, Joined.text_nil]
    by_cases edge : literal.closedAtEdge = true
    · simp only [finish, standing, OpenLiteral.finish, edge, ↓reduceIte] at done
      obtain ⟨next, added, closed⟩ := Fault.bind_eq_ok.mp done
      obtain rfl := Draft.addToken_eq_ok added
      cases closed
      have closing : literal.closingIn? [] = some 0 := by simp [OpenLiteral.closingIn?, edge]
      rw [Joined.lexInside_some closing, Draft.found_after, List.drop_nil, nothing, Draft.found,
        List.append_nil, Option.toList_none, List.append_nil, List.take_nil, List.append_nil]
      exact ⟨rfl, rfl⟩
    · simp only [finish, standing, OpenLiteral.finish, edge, Bool.false_eq_true,
        ↓reduceIte] at done
      cases done
      have closing : literal.closingIn? [] = none := by
        simp [OpenLiteral.closingIn?, edge, closing?]
      rw [Joined.lexInside_none closing, Draft.found, List.append_nil, List.append_nil]
      refine ⟨rfl, ?_⟩
      exact List.filter_append _ _

end Assembly

/--
A statement is read as the joined text of its cards is: it has the tokens of the text and its own
end, and apart from the error that there are too many cards it has the error of the text.
-/
theorem Statement.ofCards_found {options : Options} {first : Card} {continuations : List Card}
    {statement : Statement} (made : ofCards options first continuations = .ok statement) :
    statement.tokens = (Joined.lex (first :: continuations)).tokens ++
        [.statementEnd ⟨statement.lastLine, trailerColumn⟩] ∧
      statement.errors.filter LexError.isScanning =
        (Joined.lex (first :: continuations)).error.toList := by
  obtain ⟨started, begun, more⟩ := Fault.bind_eq_ok.mp made
  obtain ⟨joined, done, finished⟩ := Fault.bind_eq_ok.mp more
  obtain ⟨formed, front⟩ := Assembly.start_found begun continuations
  obtain ⟨-, whole⟩ := Assembly.joinAll_found formed done
  obtain ⟨tokens, errors⟩ := Assembly.finish_found finished
  rw [whole, front] at tokens errors
  exact ⟨tokens, errors⟩

/--
The statement that is next, told from its cards alone: whatever ignored cards stand between them,
the tokens and the error of scanning are those of the joined text.
-/
theorem Statements.next_lexes_joined {statements : Statements} {first : Card}
    {continuations : List Card} {rest : List Item} (going : statements.finished = false)
    (counted : statements.options.maxContinuations ≠ some topLimit)
    (front : statements.options.relevant statements.cards.items =
      (first :: continuations).map .ok ++ rest)
    (lines : Ascending (first :: continuations))
    (follow : ∀ card ∈ continuations, card.isContinuation = true)
    (ends : ∀ item, rest.head? = some item → continues item = false) :
    ∃ step statement, statements.next = .ok step ∧ step.result = some (.ok statement) ∧
      statement.cards = first :: continuations ∧
      statement.tokens = (Joined.lex (first :: continuations)).tokens ++
        [.statementEnd ⟨statement.lastLine, trailerColumn⟩] ∧
      statement.errors.filter LexError.isScanning =
        (Joined.lex (first :: continuations)).error.toList := by
  obtain ⟨left, opens, same⟩ := Options.exists_opens front follow (fun card here => ends _ here)
  rcases opens.next_cases lines with ⟨top, -⟩ | ⟨-, ⟨error, more, broken, -⟩ |
    ⟨statement, -, next, made, cards, -⟩⟩
  · exact absurd top counted
  · have failing : rest.head? = some (.error error) := by
      rw [← same, broken]
      rfl
    cases ends _ failing
  · obtain ⟨step, called, result, -⟩ := next_of_some going next
    obtain ⟨tokens, errors⟩ := Statement.ofCards_found made
    exact ⟨step, statement, called, result, cards, tokens, errors⟩

/-- A card whose last column has the first of two delimiters in a row. -/
def Joined.splitFront : Card :=
  Card.ofLine 1 ("      X = 'IT".toList ++ List.replicate 58 '-' ++ ['\''])

def Joined.splitBack : Card := Card.ofLine 3 "     1'S' // Y".toList

/-- The two cards with a comment between them, and what follows their statement. -/
def Joined.splitDeck : List Item :=
  [.ok splitFront, .ok (Card.ofLine 2 "C".toList), .ok splitBack,
    .ok (Card.ofLine 4 "      END".toList), .error (.read 5 [])]

/-- The two delimiters are one character of a literal that both cards have a part of. -/
theorem Statements.next_lexes_split :
    ∃ step statement, (ofFeed { comments := true, maxContinuations := some 0 }
        (.listed Joined.splitDeck)).next = .ok step ∧
      step.result = some (.ok statement) ∧ statement.cards = [Joined.splitFront, Joined.splitBack] ∧
      statement.tokens.map (fun token => (token.lexeme.length, token.position)) =
        [(1, ⟨1, 7⟩), (1, ⟨1, 9⟩), (65, ⟨1, 11⟩), (2, ⟨3, 11⟩), (1, ⟨3, 14⟩), (0, ⟨3, 73⟩)] ∧
      statement.errors.filter LexError.isScanning = [] := by
  have front : Options.relevant { comments := true, maxContinuations := some 0 }
      (Lookahead.items { feed := .listed Joined.splitDeck }) =
        [Joined.splitFront, Joined.splitBack].map .ok ++
          [.ok (Card.ofLine 4 "      END".toList), .error (.read 5 [])] := by
    rw [Lookahead.items, Feed.items_listed]
    rfl
  have lines : Ascending [Joined.splitFront, Joined.splitBack] := by
    unfold Ascending
    decide
  obtain ⟨step, statement, called, result, cards, tokens, errors⟩ :=
    @next_lexes_joined (ofFeed { comments := true, maxContinuations := some 0 }
      (.listed Joined.splitDeck)) _ _ _ rfl (by decide) front lines (by decide) (by decide)
  have last : statement.lastLine = 3 := by
    rw [Statement.lastLine, (List.cons.inj cards).2, (List.cons.inj cards).1]
    rfl
  refine ⟨step, statement, called, result, cards, ?_, ?_⟩
  · rw [tokens, last]
    decide +kernel
  · rw [errors]
    decide +kernel

end CardDeck
