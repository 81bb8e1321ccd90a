import CardDeck.Proofs.Statement.Items
import CardDeck.Proofs.Token.Entry
import CardDeck.Proofs.Token.Transcription

set_option autoImplicit false

namespace CardDeck

def Progress.Delimited : Progress → Prop
  | inside literal => isDelimiter literal.delimiter = true
  | ready | stopped => True

namespace Assembly

theorem enter_delimited {draft : Draft} {entered : Assembly} {entries : List Entry}
    (opened : ∀ literal, .unclosed literal ∈ entries → isDelimiter literal.delimiter = true)
    (done : enter draft entries = .ok entered) : entered.progress.Delimited := by
  induction entries generalizing draft with
  | nil =>
    cases done
    trivial
  | cons entry entries ih =>
    cases entry with
    | token token =>
      obtain ⟨next, -, more⟩ := Fault.bind_eq_ok.mp done
      exact ih (fun literal member => opened literal (List.mem_cons_of_mem _ member)) more
    | unclosed literal =>
      cases done
      exact opened literal List.mem_cons_self
    | stray ch position =>
      cases done
      trivial

theorem entriesFrom_delimited {draft : Draft} {entered : Assembly} {card : Card} {offset : Nat}
    (done : enter draft (card.entriesFrom offset) = .ok entered) :
    entered.progress.Delimited := by
  apply enter_delimited _ done
  intro literal member
  obtain ⟨before, c, rest, -, -, found⟩ := exists_front_of_mem_entries member
  rcases Entry.front_cases _ c rest with ⟨n, -, -, -, same⟩ |
    ⟨other, delimiter, kept, -, -, -, same⟩ | ⟨kind, n, -, -, same⟩ | ⟨-, -, same⟩
  · rw [same] at found
    cases found
  · rw [same] at found
    cases found
    rw [kept]
    exact delimiter
  · rw [same] at found
    cases found
  · rw [same] at found
    cases found

theorem join_delimited {options : Options} {assembly joined : Assembly} {card : Card}
    (delimited : assembly.progress.Delimited) (done : assembly.join options card = .ok joined) :
    joined.progress.Delimited := by
  obtain ⟨draft, -, done⟩ := Fault.bind_eq_ok.mp done
  cases standing : assembly.progress with
  | ready =>
    simp only [standing] at done
    exact entriesFrom_delimited done
  | stopped =>
    simp only [standing] at done
    cases done
    trivial
  | inside literal =>
    rw [standing] at delimited
    rcases literal.resume_cases card.body with ⟨n, -, -, resumed⟩ | ⟨-, resumed⟩
    · simp only [standing, resumed] at done
      obtain ⟨next, -, entering⟩ := Fault.bind_eq_ok.mp done
      exact entriesFrom_delimited entering
    · simp only [standing, resumed] at done
      cases done
      exact delimited

end Assembly

namespace Transcription

def draft (transcription : Transcription) (draft : Draft) : Draft where
  first := transcription.card draft.first
  continuations := draft.continuations.map transcription.card
  tokens := draft.tokens.map transcription.token
  errors := draft.errors.map transcription.lexError

def progress (transcription : Transcription) : Progress → Progress
  | .ready => .ready
  | .inside literal => .inside (transcription.literal literal)
  | .stopped => .stopped

def assembly (transcription : Transcription) (assembly : Assembly) : Assembly :=
  ⟨transcription.draft assembly.draft, transcription.progress assembly.progress⟩

def statement (transcription : Transcription) (statement : Statement) : Statement where
  first := transcription.card statement.first
  continuations := statement.continuations.map transcription.card
  tokens := statement.tokens.map transcription.token
  errors := statement.errors.map transcription.lexError

def item (transcription : Transcription) : Item → Item
  | .ok card => .ok (transcription.card card)
  | .error error => .error (transcription.sourceError error)

def result (transcription : Transcription) : Result → Result
  | .ok statement => .ok (transcription.statement statement)
  | .error error => .error (transcription.sourceError error)

def run (transcription : Transcription) (run : Run) : Run :=
  { run with results := run.results.map transcription.result }

variable (transcription : Transcription)

theorem card_isContinuation (card : Card) :
    (transcription.card card).isContinuation = card.isContinuation := by
  simp only [Card.isContinuation, Transcription.card, isWhite_char,
    transcription.char_beq (by decide : ('0' : Char).isAlpha = false)]

theorem getD_char {blank : Char} (plain : blank.isAlpha = false) (found : Option Char) :
    (found.map transcription.char).getD blank = transcription.char (found.getD blank) := by
  cases found with
  | none => exact (transcription.other blank plain).symm
  | some c => rfl

theorem dropFinalReturn_text (text : Text) :
    Text.dropFinalReturn (transcription.text text) =
      transcription.text (Text.dropFinalReturn text) := by
  have last : (transcription.text text).getLast? = some '\r' ↔ text.getLast? = some '\r' := by
    rw [Transcription.text, List.getLast?_map, Option.map_eq_some_iff]
    simp only [transcription.char_eq_iff (by decide : ('\r' : Char).isAlpha = false),
      exists_eq_right]
  rw [Text.dropFinalReturn, Text.dropFinalReturn]
  by_cases ended : text.getLast? = some '\r'
  · rw [if_pos ended, if_pos (last.mpr ended)]
    exact List.map_dropLast.symm
  · rw [if_neg ended, if_neg (mt last.mp ended)]

theorem trimEnd_text (text : Text) :
    Text.trimEnd (transcription.text text) = transcription.text (Text.trimEnd text) := by
  have same : isWhite ∘ transcription.char = isWhite := funext transcription.isWhite_char
  simp only [Text.trimEnd, Transcription.text, List.dropWhile_map, ← List.map_reverse, same]

theorem trim_text (text : Text) :
    Text.trim (transcription.text text) = transcription.text (Text.trim text) := by
  have same : isWhite ∘ transcription.char = isWhite := funext transcription.isWhite_char
  have front : Text.trimStart (transcription.text text) =
      transcription.text (Text.trimStart text) := by
    rw [Text.trimStart, Transcription.text, List.dropWhile_map, same]
    rfl
  rw [Text.trim, front, trimEnd_text, Text.trim]

theorem card_ofLine (line : Nat) (text : Text) :
    Card.ofLine (transcription.line line) (transcription.text text) =
      transcription.card (Card.ofLine line text) := by
  have blank : ((' ' : Char).isAlpha) = false := by decide
  have padding (count : Nat) : transcription.text (List.replicate count ' ') =
      List.replicate count ' ' := by
    rw [Transcription.text, List.map_replicate, transcription.other ' ' blank]
  simp only [Card.ofLine, dropFinalReturn_text, ← text_take, ← text_drop, trim_text, trimEnd_text,
    Transcription.card, Card.mk.injEq, true_and]
  refine ⟨?_, ?_, ?_⟩
  · rw [List.getD_eq_getElem?_getD, Transcription.text, List.getElem?_map,
      transcription.getD_char blank, ← List.getD_eq_getElem?_getD]
  · rw [List.rightpad, List.rightpad, text_append, padding, text_length]
  · rw [List.headD_eq_head?_getD, Transcription.text, List.head?_map,
      transcription.getD_char blank, ← List.headD_eq_head?_getD]

theorem ignores_card (options : Options) (card : Card) :
    options.ignores (transcription.card card) = options.ignores card := by
  have comment : (transcription.card card).isComment = card.isComment := by
    have letters : (transcription.char card.firstColumn == 'C' ||
        transcription.char card.firstColumn == 'c') =
        (card.firstColumn == 'C' || card.firstColumn == 'c') := by
      rw [Bool.eq_iff_iff, Bool.or_eq_true, Bool.or_eq_true, beq_iff_eq, beq_iff_eq, beq_iff_eq,
        beq_iff_eq]
      exact transcription.comment card.firstColumn
    rw [Card.isComment, Card.isComment, Transcription.card, letters,
      transcription.char_beq (by decide)]
  have blank : (transcription.card card).isBlank = card.isBlank := by
    rw [Card.isBlank, card_isContinuation, Card.isBlank]
    simp only [Transcription.card, trim_text]
    simp only [Transcription.text, List.isEmpty_map]
  rw [Options.ignores, comment, blank, Options.ignores]

theorem entriesFrom_card (card : Card) (offset : Nat) :
    (transcription.card card).entriesFrom offset =
      (card.entriesFrom offset).map transcription.entry := by
  have body := transcription.text_drop offset card.body
  rw [Card.entriesFrom, Card.entriesFrom, ← entries_text, body]
  rfl

theorem addToken_draft (draft : Draft) (token : Token) :
    (transcription.draft draft).addToken (transcription.token token) =
      (draft.addToken token).map transcription.draft := by
  have last : (transcription.draft draft).tokens.getLast?.all
        (fun last => last.position < (transcription.token token).position) =
      draft.tokens.getLast?.all fun last => last.position < token.position := by
    simp only [Transcription.draft, List.getLast?_map]
    cases draft.tokens.getLast? with
    | none => rfl
    | some last => exact decide_eq_decide.mpr (transcription.position_lt _ _)
  rw [Draft.addToken, last, Draft.addToken]
  split
  · simp [Transcription.draft, Except.map]
  · rfl

theorem addError_draft (draft : Draft) (error : LexError) :
    (transcription.draft draft).addError (transcription.lexError error) =
      transcription.draft (draft.addError error) := by
  simp [Transcription.draft, Draft.addError]

theorem join_draft (limit : Option UInt64) (draft : Draft) (card : Card) :
    (transcription.draft draft).join limit (transcription.card card) =
      (draft.join limit card).map transcription.draft := by
  have joined : (transcription.draft draft).addCard (transcription.card card) =
      transcription.draft (draft.addCard card) := by
    simp [Transcription.draft, Draft.addCard]
  have count : (transcription.draft (draft.addCard card)).continuationCount =
      (draft.addCard card).continuationCount := List.length_map _
  cases limit with
  | none =>
    rw [Draft.join, joined]
    rfl
  | some limit =>
    simp only [Draft.join, joined, count]
    split
    · rfl
    · split
      · exact congrArg Except.ok (transcription.addError_draft _ (.tooManyContinuations _ limit))
      · rfl

theorem close_draft (draft : Draft) :
    (transcription.draft draft).close = transcription.statement draft.close := by
  have last : (transcription.draft draft).endPosition =
      transcription.position draft.endPosition := by
    simp only [Draft.endPosition, Draft.lastCard, Transcription.draft, Transcription.position,
      List.getLastD_eq_getLast?, List.getLast?_map]
    cases draft.continuations.getLast? <;> rfl
  rw [Draft.close, last]
  simp [Draft.close, Transcription.statement, Transcription.draft, Token.statementEnd,
    Transcription.token, Transcription.text]

theorem enter_draft (draft : Draft) (entries : List Entry) :
    Assembly.enter (transcription.draft draft) (entries.map transcription.entry) =
      (Assembly.enter draft entries).map transcription.assembly := by
  induction entries generalizing draft with
  | nil => rfl
  | cons entry entries ih =>
    cases entry with
    | token token =>
      rw [List.map_cons, Transcription.entry, Assembly.enter, addToken_draft, Assembly.enter]
      cases draft.addToken token with
      | error fault => rfl
      | ok next => exact ih next
    | unclosed literal => rfl
    | stray ch position =>
      exact congrArg (fun draft => Except.ok (Assembly.mk draft .stopped))
        (transcription.addError_draft draft (.strayCharacter ch position))

theorem start_card (first : Card) :
    Assembly.start (transcription.card first) =
      (Assembly.start first).map transcription.assembly := by
  rw [Assembly.start, entriesFrom_card, Assembly.start, ← enter_draft]
  rfl

theorem join_assembly (options : Options) {assembly : Assembly}
    (delimited : assembly.progress.Delimited) (card : Card) :
    (transcription.assembly assembly).join options (transcription.card card) =
      (assembly.join options card).map transcription.assembly := by
  have draft : (transcription.assembly assembly).draft = transcription.draft assembly.draft := rfl
  have progress : (transcription.assembly assembly).progress =
      transcription.progress assembly.progress := rfl
  rw [Assembly.join, draft, progress, join_draft, Assembly.join]
  cases assembly.draft.join options.maxContinuations card with
  | error fault => rfl
  | ok draft =>
    show _ = Except.map _ (Except.ok draft >>= _)
    rw [Except.map, Fault.ok_bind, Fault.ok_bind]
    cases standing : assembly.progress with
    | ready =>
      simp only [Transcription.progress, entriesFrom_card, enter_draft]
    | stopped => rfl
    | inside literal =>
      rw [standing] at delimited
      have body : (transcription.card card).body = transcription.text card.body := rfl
      simp only [Transcription.progress, body, transcription.resume_literal delimited]
      cases literal.resume card.body with
      | stillOpen further => rfl
      | closed token consumed =>
        simp only [Transcription.resumed, addToken_draft, entriesFrom_card]
        cases draft.addToken token with
        | error fault => rfl
        | ok next => exact transcription.enter_draft next _

theorem joinAll_assembly (options : Options) {assembly : Assembly}
    (delimited : assembly.progress.Delimited) (cards : List Card) :
    (transcription.assembly assembly).joinAll options (cards.map transcription.card) =
      (assembly.joinAll options cards).map transcription.assembly := by
  induction cards generalizing assembly with
  | nil => rfl
  | cons card cards ih =>
    rw [List.map_cons, Assembly.joinAll, transcription.join_assembly options delimited,
      Assembly.joinAll]
    cases joined : assembly.join options card with
    | error fault => rfl
    | ok next => exact ih (Assembly.join_delimited delimited joined)

theorem finish_assembly (assembly : Assembly) :
    (transcription.assembly assembly).finish =
      assembly.finish.map transcription.statement := by
  cases standing : assembly.progress with
  | ready =>
    simp only [Assembly.finish, Transcription.assembly, standing, Transcription.progress,
      close_draft, Except.map]
  | stopped =>
    simp only [Assembly.finish, Transcription.assembly, standing, Transcription.progress,
      close_draft, Except.map]
  | inside literal =>
    simp only [Assembly.finish, Transcription.assembly, standing, Transcription.progress,
      finish_literal]
    cases literal.finish with
    | error error => simp only [addError_draft, close_draft, Except.map]
    | ok token =>
      simp only [addToken_draft]
      cases assembly.draft.addToken token with
      | error fault => rfl
      | ok next => exact congrArg Except.ok (transcription.close_draft next)

/-- A result with the items after it. -/
def given (transcription : Transcription) (given : Result × List Item) : Result × List Item :=
  (transcription.result given.1, given.2.map transcription.item)

theorem continuations_items (options : Options) (items : List Item) :
    options.continuations (items.map transcription.item) =
      ((options.continuations items).1.map transcription.card,
        (options.continuations items).2.map transcription.item) := by
  fun_induction Options.continuations options items with
  | case1 => rfl
  | case2 error items => rfl
  | case3 card items ignored ih =>
    rw [List.map_cons, Transcription.item, Options.continuations, ignores_card, if_pos ignored, ih]
  | case4 card items kept continuation ih =>
    rw [List.map_cons, Transcription.item, Options.continuations, ignores_card, if_neg kept,
      card_isContinuation, if_pos continuation, ih]
    rfl
  | case5 card items kept other =>
    rw [List.map_cons, Transcription.item, Options.continuations, ignores_card, if_neg kept,
      card_isContinuation, if_neg other]
    rfl

theorem closeBefore_items (assembly : Assembly) (items : List Item) :
    (transcription.assembly assembly).closeBefore (items.map transcription.item) =
      (assembly.closeBefore items).map transcription.given := by
  cases items with
  | nil =>
    show (transcription.assembly assembly).closeBefore [] = _
    rw [Assembly.closeBefore_of_ne (by simp), Assembly.closeBefore_of_ne (by simp),
      finish_assembly]
    cases assembly.finish <;> rfl
  | cons item items =>
    cases item with
    | error error => rfl
    | ok card =>
      rw [List.map_cons, Transcription.item, Assembly.closeBefore_of_ne (by simp),
        Assembly.closeBefore_of_ne (by simp), finish_assembly]
      cases assembly.finish <;> rfl

theorem gatherItems_items (options : Options) {assembly : Assembly}
    (delimited : assembly.progress.Delimited) (items : List Item) :
    (transcription.assembly assembly).gatherItems options (items.map transcription.item) =
      (assembly.gatherItems options items).map transcription.given := by
  rw [Assembly.gatherItems, continuations_items, transcription.joinAll_assembly options delimited,
    Assembly.gatherItems]
  cases assembly.joinAll options (options.continuations items).1 with
  | error fault => rfl
  | ok joined => exact transcription.closeBefore_items joined _

theorem nextItems_items (options : Options) (items : List Item) :
    Statements.nextItems options (items.map transcription.item) =
      (Statements.nextItems options items).map (Option.map transcription.given) := by
  fun_induction Statements.nextItems options items with
  | case1 => rfl
  | case2 error items => rfl
  | case3 first items ignored ih =>
    rw [List.map_cons, Transcription.item, Statements.nextItems, ignores_card, if_pos ignored, ih]
  | case4 first items kept =>
    rw [List.map_cons, Transcription.item, Statements.nextItems, ignores_card, if_neg kept,
      start_card]
    cases started : Assembly.start first with
    | error fault => rfl
    | ok assembly =>
      have delimited := Assembly.entriesFrom_delimited started
      show (transcription.assembly assembly).gatherItems options _ >>= _ = _
      rw [transcription.gatherItems_items options delimited, Fault.ok_bind]
      cases assembly.gatherItems options items <;> rfl

/-- A run over transcribed items is the transcribed run, with the same fault if there is one. -/
theorem runItems_items (options : Options) (items : List Item) :
    Statements.runItems options (items.map transcription.item) =
      transcription.run (Statements.runItems options items) := by
  have next := transcription.nextItems_items options
  fun_induction Statements.runItems options items with
  | case1 items fault given =>
    apply Statements.runItems_of_error
    rw [next, given]
    rfl
  | case2 items given =>
    apply Statements.runItems_of_none
    rw [next, given]
    rfl
  | case3 items error rest given =>
    have failed : Statements.nextItems options (items.map transcription.item) =
        .ok (some (.error (transcription.sourceError error), rest.map transcription.item)) := by
      rw [next, given]
      rfl
    exact Statements.runItems_of_failure failed
  | case4 items statement rest given later ih =>
    have first : Statements.nextItems options (items.map transcription.item) =
        .ok (some (.ok (transcription.statement statement), rest.map transcription.item)) := by
      rw [next, given]
      rfl
    rw [Statements.runItems_of_statement first, ih]
    rfl

end Transcription

end CardDeck
