import CardDeck.Proofs.Statement.Local
import CardDeck.Proofs.Token.Word

set_option autoImplicit false

namespace CardDeck

section Tokens

theorem Assembly.enter_tokens {draft : Draft} {entered : Assembly} {tokens : List Token}
    (done : enter draft (tokens.map .token) = .ok entered) :
    entered = ⟨{ draft with tokens := draft.tokens ++ tokens }, .ready⟩ := by
  induction tokens generalizing draft with
  | nil =>
    cases done
    rw [List.append_nil]
  | cons token tokens ih =>
    obtain ⟨next, added, entering⟩ := Fault.bind_eq_ok.mp done
    obtain rfl := Draft.addToken_eq_ok added
    rw [ih entering, Draft.push, List.append_assoc, List.singleton_append]

variable {options : Options}

/-- Cards that hold tokens only are joined without an error, and leave nothing open. -/
theorem Assembly.joinAll_tokens (unlimited : options.maxContinuations = none)
    {assembly joined : Assembly} {cards : List Card} {tokens : List (List Token)}
    (ready : assembly.progress = .ready)
    (shown : cards.map (·.entriesFrom 0) = tokens.map (List.map .token))
    (done : assembly.joinAll options cards = .ok joined) :
    joined.progress = .ready ∧ joined.draft.errors = assembly.draft.errors ∧
      joined.draft.tokens = assembly.draft.tokens ++ tokens.flatten := by
  induction cards generalizing assembly tokens with
  | nil =>
    obtain rfl := List.map_eq_nil_iff.mp shown.symm
    cases done
    exact ⟨ready, rfl, (List.append_nil _).symm⟩
  | cons card cards ih =>
    obtain ⟨here, later, rfl, first, others⟩ := List.map_eq_cons_iff.mp shown.symm
    obtain ⟨next, joining, more⟩ := Fault.bind_eq_ok.mp done
    obtain ⟨draft, extended, entering⟩ := Fault.bind_eq_ok.mp joining
    obtain rfl := Draft.join_eq_ok extended
    simp only [ready, ← first] at entering
    obtain rfl := enter_tokens entering
    obtain ⟨last, errors, whole⟩ := ih rfl others.symm more
    refine ⟨last, ?_, ?_⟩
    · rw [errors, unlimited]
      exact List.append_nil _
    · rw [whole, List.flatten_cons, ← List.append_assoc]
      rfl

/-- The statement of cards that hold tokens only is valid, and its tokens are those of its cards. -/
theorem Statement.ofCards_tokens (unlimited : options.maxContinuations = none) {first : Card}
    {continuations : List Card} {tokens : List (List Token)} {statement : Statement}
    (shown : (first :: continuations).map (·.entriesFrom 0) = tokens.map (List.map .token))
    (made : ofCards options first continuations = .ok statement) :
    statement.isValid = true ∧
      statement.tokens = tokens.flatten ++ [.statementEnd ⟨statement.lastLine, trailerColumn⟩] := by
  obtain ⟨here, later, rfl, entries, others⟩ := List.map_eq_cons_iff.mp shown.symm
  obtain ⟨started, starting, more⟩ := Fault.bind_eq_ok.mp made
  obtain ⟨joined, done, finished⟩ := Fault.bind_eq_ok.mp more
  have entering : Assembly.enter { first } (here.map .token) = .ok started := by
    rw [entries]
    exact starting
  obtain rfl := Assembly.enter_tokens entering
  obtain ⟨ready, errors, whole⟩ := Assembly.joinAll_tokens unlimited rfl others.symm done
  rw [Assembly.finish, ready] at finished
  cases finished
  constructor
  · exact List.isEmpty_iff.mpr errors
  · rw [List.flatten_cons, ← List.nil_append here, ← whole]
    rfl

end Tokens

theorem Statements.runItems_cards {options : Options} {first : Card} {continuations : List Card}
    (kept : ∀ card ∈ first :: continuations, options.ignores card = false)
    (follow : ∀ card ∈ continuations, card.isContinuation = true)
    (lines : Ascending (first :: continuations))
    (counted : options.maxContinuations ≠ some topLimit) :
    ∃ statement, runItems options ((first :: continuations).map .ok) =
        { results := [.ok statement] } ∧
      Statement.ofCards options first continuations = .ok statement ∧
      statement.cards = first :: continuations := by
  have whole : options.relevant ((first :: continuations).map .ok) =
      (first :: continuations).map .ok ++ [] := by
    rw [List.append_nil]
    apply List.filter_eq_self.mpr
    intro item member
    obtain ⟨card, among, rfl⟩ := List.mem_map.mp member
    rw [Options.ignoresItem, kept card among]
    rfl
  obtain ⟨left, opens, nothing⟩ :=
    Options.exists_opens whole follow fun card none => by cases none
  have ended : left = [] := by
    apply Classical.byContradiction
    intro more
    have clean := (Clean.map_ok (first :: continuations)).suffix opens.suffix
    exact opens.relevant_ne_nil clean more nothing
  subst ended
  obtain ⟨statement, made, cards, -⟩ := Statement.ofCards_ordered lines fun _ => counted
  refine ⟨statement, ?_, made, cards⟩
  rw [runItems_of_opens opens lines counted made (fun error more none => by cases none),
    runItems_nil]
  rfl

/-- Words that fit on one card and leave its last column blank. -/
structure Row where
  words : List Word
  fits : (Word.joined words).length < bodyWidth

namespace Row

/-- The line of a row, with no label and with the marker in its column. -/
def line (marker : Char) (row : Row) : Text :=
  List.replicate 5 ' ' ++ marker :: Word.joined row.words

/-- The text of a row and of more rows that continue it, every line of it ended. -/
def printed (first : Row) (more : List Row) : Text :=
  (first.line ' ' :: more.map (line '1')).flatMap (· ++ ['\n'])

def tokens (number : Nat) (row : Row) : List Token := Word.tokens ⟨number, bodyColumn⟩ row.words

variable {marker : Char} (row : Row)

theorem line_length :
    (row.line marker).length = bodyColumn - 1 + (Word.joined row.words).length := by
  rw [line, List.length_append, List.length_replicate, List.length_cons]
  exact Nat.add_right_comm 5 _ 1

theorem line_plain (plain : ' ' ≤ marker) :
    '\n' ∉ row.line marker ∧ (row.line marker).getLast? ≠ some '\r' := by
  have newline : '\n' ≠ marker := by
    rintro rfl
    revert plain
    decide
  have blank : '\n' ∉ List.replicate 5 ' ' := by decide
  obtain ⟨words, fits⟩ := row
  cases words with
  | nil =>
    rw [line, Word.joined_nil, List.getLast?_concat, List.mem_append, List.mem_singleton, not_or]
    refine ⟨⟨blank, newline⟩, ?_⟩
    intro last
    rw [Option.some.inj last] at plain
    revert plain
    decide
  | cons word words =>
    obtain ⟨⟨front, d, last, solid⟩, oneLine⟩ := Word.joined_edges word words
    constructor
    · rw [line, List.mem_append, List.mem_cons, not_or, not_or]
      exact ⟨blank, newline, oneLine⟩
    · rw [line, last, ← List.cons_append, ← List.append_assoc, List.getLast?_concat]
      intro same
      rw [Option.some.inj same] at solid
      revert solid
      decide

/-- The card of a line has the marker, and the words and nothing else on its body. -/
theorem card_of_line (plain : ' ' ≤ marker) (number : Nat) :
    (Card.ofLine number (row.line marker)).marker = marker ∧
      (Card.ofLine number (row.line marker)).entriesFrom 0 = (row.tokens number).map .token := by
  have fits := row.fits
  have width : bodyColumn - 1 + bodyWidth ≤ cardWidth := by decide
  have short : (row.line marker).length ≤ cardWidth := by
    rw [line_length]
    omega
  have columns : (Text.dropFinalReturn (row.line marker)).take cardWidth = row.line marker := by
    rw [Text.dropFinalReturn_of_ne _ (row.line_plain plain).2,
      List.take_of_length_le short]
  constructor
  · simp only [Card.ofLine, columns]
    rfl
  · have body : (Card.ofLine number (row.line marker)).body = Word.joined row.words ++
        List.replicate (bodyWidth - (Word.joined row.words).length) ' ' := by
      have left : (row.line marker).drop 6 = Word.joined row.words := rfl
      simp only [Card.ofLine, columns, left, List.take_of_length_le (Nat.le_of_lt fits)]
      rfl
    rw [Card.entriesFrom, List.drop_zero, body]
    exact Word.entries_joined row.words _ (Nat.sub_pos_of_lt fits)

end Row

theorem Card.lastLine_ofLines (number : Nat) (text : Text) (texts : List Text) :
    ((ofLines (number + 1) texts).getLastD (ofLine number text)).line = number + texts.length := by
  induction texts generalizing number text with
  | nil => rfl
  | cons next texts ih =>
    rw [ofLines_cons, List.getLastD_cons, ih, List.length_cons]
    omega

namespace Row

theorem cards_of_lines {marker : Char} (plain : ' ' ≤ marker) (number : Nat) (rows : List Row) :
    (∀ card ∈ Card.ofLines number (rows.map (line marker)), card.marker = marker) ∧
      (Card.ofLines number (rows.map (line marker))).map (·.entriesFrom 0) =
        ((rows.zipIdx number).map fun numbered => numbered.1.tokens numbered.2).map
          (List.map .token) := by
  induction rows generalizing number with
  | nil => exact ⟨List.forall_mem_nil _, rfl⟩
  | cons row rows ih =>
    obtain ⟨mark, entries⟩ := row.card_of_line plain number
    obtain ⟨marks, others⟩ := ih (number + 1)
    rw [List.map_cons, Card.ofLines_cons]
    constructor
    · exact List.forall_mem_cons.mpr ⟨mark, marks⟩
    · rw [List.map_cons, entries, others]
      rfl

theorem ofText_printed (first : Row) (more : List Row) :
    Card.ofText (printed first more) =
      Card.ofLine 1 (first.line ' ') :: Card.ofLines 2 (more.map (line '1')) := by
  have blank : ' ' ≤ ' ' := by decide
  have one : ' ' ≤ '1' := by decide
  have plain : ∀ text ∈ first.line ' ' :: more.map (line '1'), '\n' ∉ text := by
    refine List.forall_mem_cons.mpr ⟨(first.line_plain blank).1, ?_⟩
    intro text member
    obtain ⟨row, -, rfl⟩ := List.mem_map.mp member
    exact (row.line_plain one).1
  rw [Card.ofText, printed, Lines.all_flatMap plain]
  rfl

end Row

/--
Rows of words are read back as they were written: one statement with a card for each row, which is
valid and has the tokens of the words, each at the line of its row and in the column where its word
starts, and the end behind the last card.
-/
theorem Statements.run_printed (first : Row) (more : List Row) :
    ∃ statement : Statement,
      (ofText {} (Row.printed first more)).run = { results := [.ok statement] } ∧
      statement.isValid = true ∧ statement.cards.length = more.length + 1 ∧
      statement.tokens =
        ((first :: more).zipIdx 1).flatMap (fun numbered => numbered.1.tokens numbered.2) ++
          [.statementEnd ⟨more.length + 1, trailerColumn⟩] := by
  have blank : ' ' ≤ ' ' := by decide
  have one : ' ' ≤ '1' := by decide
  have cards := Row.ofText_printed first more
  have lines := Card.ofText_ascending (Row.printed first more)
  rw [cards] at lines
  -- the first card needs no mark: a statement starts with it whatever mark it has
  obtain ⟨marks, entries⟩ := Row.cards_of_lines one 2 more
  have follow : ∀ card ∈ Card.ofLines 2 (more.map (Row.line '1')), card.isContinuation = true := by
    intro card member
    rw [Card.isContinuation, marks card member]
    decide
  obtain ⟨statement, run, made, found⟩ := runItems_cards
    (fun card _ => Options.ignores_eq_false {} card rfl rfl) follow lines (by decide)
  have shown : (Card.ofLine 1 (first.line ' ') :: Card.ofLines 2 (more.map (Row.line '1'))).map
        (·.entriesFrom 0) =
      (((first :: more).zipIdx 1).map fun numbered => numbered.1.tokens numbered.2).map
        (List.map .token) := by
    rw [List.map_cons, (first.card_of_line blank 1).2, entries]
    rfl
  obtain ⟨valid, tokens⟩ := Statement.ofCards_tokens rfl shown made
  obtain ⟨start, later⟩ := List.cons.inj found
  refine ⟨statement, ?_, valid, ?_, ?_⟩
  · rw [run_ofText, cards]
    exact run
  · rw [found, List.length_cons, Card.ofLines, List.length_map, List.length_zipIdx,
      List.length_map]
  · rw [tokens, Statement.lastLine, start, later, Card.lastLine_ofLines, List.length_map,
      Nat.add_comm 1, List.flatMap_def]

namespace Row

/-- A name, a number with a power and one without, and words of other kinds between them. -/
def firstRow : Row where
  words :=
    [⟨.identifier, 'X' :: "_1".toList, .of_lexeme? (by decide)⟩,
      ⟨.operator, '*' :: "*".toList, .of_lexeme? (by decide)⟩,
      ⟨.real, '1' :: ".5E-3".toList, .of_lexeme? (by decide)⟩,
      ⟨.dotted, '.' :: "EQ.".toList, .of_lexeme? (by decide)⟩,
      ⟨.integer, '1' :: "2".toList, .of_lexeme? (by decide)⟩]
  fits := by decide

/-- A literal with blanks, doubled and other delimiters, an operator and a carriage return in it. -/
def lastRow : Row where
  words :=
    [⟨.character, '\'' :: "IT''S  \" **\r'".toList, .of_closing? rfl (by decide) (by decide)⟩,
      ⟨.operator, '/' :: [], .of_lexeme? (by decide)⟩]
  fits := by decide

def emptyRow : Row := ⟨[], by decide⟩

end Row

theorem Statements.run_printed_rows :
    Row.printed Row.firstRow [Row.emptyRow, Row.lastRow] =
      "      X_1 ** 1.5E-3 .EQ. 12\n     1\n     1'IT''S  \" **\r' /\n".toList ∧
    ∃ statement : Statement,
      (ofText {} (Row.printed Row.firstRow [Row.emptyRow, Row.lastRow])).run =
        { results := [.ok statement] } ∧
      statement.tokens = [⟨.identifier, "X_1".toList, ⟨1, 7⟩⟩, ⟨.operator, "**".toList, ⟨1, 11⟩⟩,
        ⟨.real, "1.5E-3".toList, ⟨1, 14⟩⟩, ⟨.dotted, ".EQ.".toList, ⟨1, 21⟩⟩,
        ⟨.integer, "12".toList, ⟨1, 26⟩⟩, ⟨.character, "'IT''S  \" **\r'".toList, ⟨3, 7⟩⟩,
        ⟨.operator, "/".toList, ⟨3, 22⟩⟩, ⟨.statementEnd, [], ⟨3, 73⟩⟩] := by
  constructor
  · decide
  · obtain ⟨statement, run, -, -, tokens⟩ := run_printed Row.firstRow [Row.emptyRow, Row.lastRow]
    refine ⟨statement, run, ?_⟩
    rw [tokens]
    decide

end CardDeck
