import CardDeck.Proofs.Token.Lexeme
import CardDeck.Token.Entry

/-!
Transcriptions: a deck is written with other letters of the same use, and at other lines.

Lexing looks at a letter only to see that it is one, and at a line only to keep it; so it does the
same with the transcribed text and gives the transcribed entries.
-/

set_option autoImplicit false

namespace CardDeck

theorem isWhite_of_isAlpha {c : Char} (alpha : c.isAlpha = true) : isWhite c = false := by
  have code := isAlpha_iff_toNat.mp alpha
  apply isWhite_of_graphic
  · omega
  · omega

/-- A change of letters and of line numbers that keeps all that the reading of a deck depends on. -/
structure Transcription where
  char : Char → Char
  line : Nat → Nat
  letter : ∀ c, c.isAlpha = true → (char c).isAlpha = true
  other : ∀ c, c.isAlpha = false → char c = c
  exponent : ∀ c, Lexeme.isExponentLetter (char c) = Lexeme.isExponentLetter c
  comment : ∀ c, char c = 'C' ∨ char c = 'c' ↔ c = 'C' ∨ c = 'c'
  line_lt : ∀ m n, line m < line n ↔ m < n

namespace Transcription

/-- The deck stands `count` lines further down. -/
def down (count : Nat) : Transcription where
  char c := c
  line n := n + count
  letter _ alpha := alpha
  other _ _ := rfl
  exponent _ := rfl
  comment _ := Iff.rfl
  line_lt _ _ := Nat.add_lt_add_iff_right

def text (transcription : Transcription) (text : Text) : Text := text.map transcription.char

def position (transcription : Transcription) (position : Position) : Position :=
  { position with line := transcription.line position.line }

def token (transcription : Transcription) (token : Token) : Token :=
  { token with
    lexeme := transcription.text token.lexeme
    position := transcription.position token.position }

def lexError (transcription : Transcription) : LexError → LexError
  | .strayCharacter ch position =>
    .strayCharacter (transcription.char ch) (transcription.position position)
  | .unterminatedLiteral lexeme position =>
    .unterminatedLiteral (transcription.text lexeme) (transcription.position position)
  | .tooManyContinuations line limit => .tooManyContinuations (transcription.line line) limit

def sourceError (transcription : Transcription) : SourceError → SourceError
  | .read line reason => .read (transcription.line line) reason
  | .decode line encoding offset => .decode (transcription.line line) encoding offset

def card (transcription : Transcription) (card : Card) : Card where
  line := transcription.line card.line
  label := transcription.text card.label
  marker := transcription.char card.marker
  body := transcription.text card.body
  trailer := transcription.text card.trailer
  firstColumn := transcription.char card.firstColumn
  body_length := (List.length_map _).trans card.body_length

def literal (transcription : Transcription) (literal : OpenLiteral) : OpenLiteral :=
  { literal with
    delimiter := transcription.char literal.delimiter
    text := transcription.text literal.text
    position := transcription.position literal.position }

def resumed (transcription : Transcription) : Resumed → Resumed
  | .closed token consumed => .closed (transcription.token token) consumed
  | .stillOpen literal => .stillOpen (transcription.literal literal)

def entry (transcription : Transcription) : Entry → Entry
  | .token token => .token (transcription.token token)
  | .unclosed literal => .unclosed (transcription.literal literal)
  | .stray ch position => .stray (transcription.char ch) (transcription.position position)

variable (transcription : Transcription)

theorem line_inj (m n : Nat) : transcription.line m = transcription.line n ↔ m = n := by
  have before := transcription.line_lt m n
  have after := transcription.line_lt n m
  omega

theorem position_lt (p q : Position) :
    transcription.position p < transcription.position q ↔ p < q := by
  simp only [Position.lt_iff, position, transcription.line_lt, transcription.line_inj]

theorem position_right (p : Position) (count : Nat) :
    (transcription.position p).right count = transcription.position (p.right count) := rfl

@[simp] theorem text_length (text : Text) : (transcription.text text).length = text.length :=
  List.length_map _

theorem text_cons (c : Char) (text : Text) :
    transcription.text (c :: text) = transcription.char c :: transcription.text text := rfl

theorem text_append (front back : Text) :
    transcription.text (front ++ back) = transcription.text front ++ transcription.text back :=
  List.map_append

theorem text_take (count : Nat) (text : Text) :
    transcription.text (text.take count) = (transcription.text text).take count := List.map_take

theorem text_drop (count : Nat) (text : Text) :
    transcription.text (text.drop count) = (transcription.text text).drop count := List.map_drop

theorem char_of_no_letter (condition : Char → Bool)
    (letters : ∀ c, c.isAlpha = true → condition c = false) (c : Char) :
    condition (transcription.char c) = condition c := by
  cases alpha : c.isAlpha with
  | true => rw [letters c alpha, letters _ (transcription.letter c alpha)]
  | false => rw [transcription.other c alpha]

theorem char_beq {mark : Char} (plain : mark.isAlpha = false) (c : Char) :
    (transcription.char c == mark) = (c == mark) := by
  apply transcription.char_of_no_letter (· == mark)
  intro d alpha
  rw [beq_eq_false_iff_ne]
  rintro rfl
  rw [alpha] at plain
  cases plain

theorem char_eq_iff {mark : Char} (plain : mark.isAlpha = false) (c : Char) :
    transcription.char c = mark ↔ c = mark := by
  rw [← beq_iff_eq, transcription.char_beq plain, beq_iff_eq]

theorem char_mem (marks : List Char) (plain : marks.any Char.isAlpha = false) (c : Char) :
    transcription.char c ∈ marks ↔ c ∈ marks := by
  have alone : ∀ mark ∈ marks, mark.isAlpha = false := by
    intro mark member
    exact Bool.eq_false_iff.mpr (List.any_eq_false.mp plain mark member)
  constructor
  · intro member
    rwa [← (transcription.char_eq_iff (alone _ member) c).mp rfl] at member
  · intro member
    rwa [(transcription.char_eq_iff (alone c member) c).mpr rfl]

theorem chars_mem (marks : List (Char × Char))
    (plain : (marks.any fun mark => mark.1.isAlpha || mark.2.isAlpha) = false) (c d : Char) :
    (transcription.char c, transcription.char d) ∈ marks ↔ (c, d) ∈ marks := by
  have alone : ∀ mark ∈ marks, mark.1.isAlpha = false ∧ mark.2.isAlpha = false := by
    intro mark member
    exact Bool.or_eq_false_iff.mp
      (Bool.eq_false_iff.mpr (List.any_eq_false.mp plain mark member))
  constructor
  · intro member
    obtain ⟨front, back⟩ := alone _ member
    have first : c = transcription.char c := (transcription.char_eq_iff front c).mp rfl
    have second : d = transcription.char d := (transcription.char_eq_iff back d).mp rfl
    rwa [← first, ← second] at member
  · intro member
    obtain ⟨front, back⟩ := alone _ member
    have first : transcription.char c = c := (transcription.char_eq_iff front c).mpr rfl
    have second : transcription.char d = d := (transcription.char_eq_iff back d).mpr rfl
    rwa [first, second]

theorem isAlpha_char (c : Char) : (transcription.char c).isAlpha = c.isAlpha := by
  cases alpha : c.isAlpha with
  | true => exact transcription.letter c alpha
  | false => rw [transcription.other c alpha, alpha]

theorem isDigit_char (c : Char) : (transcription.char c).isDigit = c.isDigit := by
  apply transcription.char_of_no_letter Char.isDigit
  intro d alpha
  cases digit : d.isDigit with
  | false => rfl
  | true => rw [isAlpha_eq_false_of_isDigit digit] at alpha; cases alpha

theorem isWhite_char (c : Char) : isWhite (transcription.char c) = isWhite c :=
  transcription.char_of_no_letter isWhite (fun _ => isWhite_of_isAlpha) c

theorem isDelimiter_char (c : Char) : isDelimiter (transcription.char c) = isDelimiter c := by
  rw [isDelimiter, transcription.char_beq (by decide), transcription.char_beq (by decide),
    isDelimiter]

theorem isWordChar_char (c : Char) : isWordChar (transcription.char c) = isWordChar c := by
  rw [isWordChar, Char.isAlphanum, isAlpha_char, isDigit_char, transcription.char_beq (by decide)]
  rfl

theorem spanLength_text {condition : Char → Bool}
    (kept : ∀ c, condition (transcription.char c) = condition c) (text : Text) :
    spanLength condition (transcription.text text) = spanLength condition text := by
  have same : condition ∘ transcription.char = condition := funext kept
  rw [spanLength, Transcription.text, List.takeWhile_map, List.length_map, same, spanLength]

theorem getElem?_text {mark : Char} (plain : mark.isAlpha = false) (text : Text) (index : Nat) :
    (transcription.text text)[index]? = some mark ↔ text[index]? = some mark := by
  rw [Transcription.text, List.getElem?_map, Option.map_eq_some_iff]
  simp only [transcription.char_eq_iff plain, exists_eq_right]

theorem head?_text_any {condition : Char → Bool}
    (kept : ∀ c, condition (transcription.char c) = condition c) (text : Text) :
    (transcription.text text).head?.any condition = text.head?.any condition := by
  cases text with
  | nil => rfl
  | cons c rest => exact kept c

theorem dotted?_text (text : Text) :
    Lexeme.dotted? (transcription.text text) = Lexeme.dotted? text := by
  cases text with
  | nil => rfl
  | cons c rest =>
    rw [text_cons]
    by_cases point : c = '.'
    · subst point
      rw [transcription.other '.' (by decide)]
      simp only [Lexeme.dotted?, transcription.spanLength_text transcription.isAlpha_char,
        transcription.getElem?_text (by decide : ('.' : Char).isAlpha = false)]
    · rw [Lexeme.dotted?_of_ne point, Lexeme.dotted?_of_ne]
      rwa [ne_eq, transcription.char_eq_iff (by decide)]

theorem fraction_text (text : Text) :
    Lexeme.fraction (transcription.text text) = Lexeme.fraction text := by
  cases text with
  | nil => rfl
  | cons c rest =>
    rw [text_cons]
    by_cases point : c = '.'
    · subst point
      have kept := transcription.other '.' (by decide)
      have dotted := transcription.dotted?_text ('.' :: rest)
      rw [text_cons, kept] at dotted
      rw [kept, Lexeme.fraction, Lexeme.fraction, dotted,
        transcription.spanLength_text transcription.isDigit_char]
    · rw [Lexeme.fraction_of_ne point, Lexeme.fraction_of_ne]
      rwa [ne_eq, transcription.char_eq_iff (by decide)]

theorem sign_text (text : Text) : Lexeme.sign (transcription.text text) = Lexeme.sign text := by
  cases text with
  | nil => rfl
  | cons c rest =>
    simp only [text_cons, Lexeme.sign,
      transcription.char_eq_iff (by decide : ('+' : Char).isAlpha = false),
      transcription.char_eq_iff (by decide : ('-' : Char).isAlpha = false)]

theorem exponent_text (text : Text) :
    Lexeme.exponent (transcription.text text) = Lexeme.exponent text := by
  cases text with
  | nil => rfl
  | cons c rest =>
    simp only [text_cons, Lexeme.exponent, transcription.exponent, sign_text, ← text_drop,
      transcription.spanLength_text transcription.isDigit_char]

theorem number_text (text : Text) :
    Lexeme.number (transcription.text text) = Lexeme.number text := by
  simp only [Lexeme.number, transcription.spanLength_text transcription.isDigit_char, ← text_drop,
    fraction_text, exponent_text]

theorem operator?_text (text : Text) :
    Lexeme.operator? (transcription.text text) = Lexeme.operator? text := by
  cases text with
  | nil => rfl
  | cons c rest =>
    have single := transcription.char_mem Lexeme.singleOperators (by decide) c
    have double := transcription.chars_mem Lexeme.doubleOperators (by decide) c
    have pair : (transcription.text rest).head?.any
          (fun d => (transcription.char c, d) ∈ Lexeme.doubleOperators) =
        rest.head?.any fun d => (c, d) ∈ Lexeme.doubleOperators := by
      cases rest with
      | nil => rfl
      | cons d rest => exact decide_eq_decide.mpr (double d)
    simp only [text_cons, Lexeme.operator?, pair, single]

theorem lexeme?_text (c : Char) (rest : Text) :
    lexeme? (transcription.char c) (transcription.text rest) = lexeme? c rest := by
  simp only [lexeme?, isAlpha_char, isDigit_char, ← text_cons, number_text, dotted?_text,
    operator?_text, transcription.spanLength_text transcription.isWordChar_char,
    transcription.head?_text_any transcription.isDigit_char,
    transcription.char_beq (by decide : ('.' : Char).isAlpha = false)]

theorem closing?_text {delimiter : Char} (plain : delimiter.isAlpha = false) (text : Text) :
    closing? delimiter (transcription.text text) = closing? delimiter text := by
  have kept := transcription.char_eq_iff plain
  fun_induction closing? delimiter text with
  | case1 => rfl
  | case2 => simp only [Transcription.text, List.map_cons, List.map_nil, closing?, kept, ↓reduceIte]
  | case3 c other =>
    simp only [Transcription.text, List.map_cons, List.map_nil, closing?, kept, other, ↓reduceIte]
  | case4 rest ih =>
    simp only [text_cons, closing?, kept, ↓reduceIte, ih]
  | case5 d rest other =>
    simp only [text_cons, closing?, kept, other, ↓reduceIte]
  | case6 c d rest other ih =>
    rw [text_cons] at ih
    simp only [text_cons, closing?, kept, other, ↓reduceIte, ih]

theorem isAlpha_of_isDelimiter {c : Char} (delimiter : isDelimiter c = true) :
    c.isAlpha = false := by
  rcases Bool.or_eq_true_iff.mp delimiter with single | double
  · rw [beq_iff_eq.mp single]
    decide
  · rw [beq_iff_eq.mp double]
    decide

theorem extend_literal (literal : OpenLiteral) (body : Text) (closing : Option Nat) :
    (transcription.literal literal).extend (transcription.text body) closing =
      transcription.resumed (literal.extend body closing) := by
  cases closing with
  | none => simp only [OpenLiteral.extend, resumed, Transcription.literal, text_append]
  | some n =>
    simp only [OpenLiteral.extend, text_length]
    split
    · simp only [resumed, token, OpenLiteral.token, Transcription.literal, text_append, text_take]
    · simp only [resumed, Transcription.literal, text_append]

theorem resume_literal {literal : OpenLiteral} (delimiter : isDelimiter literal.delimiter = true)
    (body : Text) :
    (transcription.literal literal).resume (transcription.text body) =
      transcription.resumed (literal.resume body) := by
  have plain := isAlpha_of_isDelimiter delimiter
  have same : (transcription.literal literal).delimiter = literal.delimiter :=
    transcription.other _ plain
  have tail : (transcription.text body).tail = transcription.text body.tail := List.map_tail.symm
  have head : (transcription.text body).head? = some literal.delimiter ↔
      body.head? = some literal.delimiter := by
    rw [List.head?_eq_getElem?, List.head?_eq_getElem?, transcription.getElem?_text plain]
  have edge : (transcription.literal literal).closedAtEdge = literal.closedAtEdge := rfl
  simp only [OpenLiteral.resume, same, edge, head, tail, transcription.closing?_text plain,
    extend_literal]
  split
  · split
    · rfl
    · rfl
  · rfl

theorem finish_literal (literal : OpenLiteral) :
    (transcription.literal literal).finish =
      match literal.finish with
      | .ok token => .ok (transcription.token token)
      | .error error => .error (transcription.lexError error) := by
  have edge : (transcription.literal literal).closedAtEdge = literal.closedAtEdge := rfl
  simp only [OpenLiteral.finish, edge]
  split <;> rfl

theorem literal_entry (position : Position) {c : Char} (delimiter : isDelimiter c = true)
    (rest : Text) :
    Entry.literal (transcription.position position) (transcription.char c)
        (transcription.text rest) =
      transcription.entry (Entry.literal position c rest) := by
  have plain := isAlpha_of_isDelimiter delimiter
  have same := transcription.other c plain
  simp only [Entry.literal, same, transcription.closing?_text plain, text_length]
  cases closing? c rest with
  | none => simp only [entry, Transcription.literal, text_cons, same]
  | some n =>
    dsimp only
    split
    · simp only [entry, token, text_cons, text_take, same]
    · simp only [entry, Transcription.literal, text_cons, same]

theorem front_entry (position : Position) (c : Char) (rest : Text) :
    Entry.front (transcription.position position) (transcription.char c)
        (transcription.text rest) =
      transcription.entry (Entry.front position c rest) := by
  simp only [Entry.front, isDelimiter_char, lexeme?_text]
  split
  · rename_i delimiter
    exact transcription.literal_entry position delimiter rest
  · split
    · simp only [entry, token, ← text_cons, text_take]
    · rfl

theorem entry_length (entry : Entry) : (transcription.entry entry).length = entry.length := by
  cases entry with
  | token token => exact transcription.text_length _
  | unclosed literal => exact transcription.text_length _
  | stray ch position => rfl

theorem entries_text (position : Position) (text : Text) :
    entries (transcription.position position) (transcription.text text) =
      (entries position text).map transcription.entry := by
  fun_induction entries position text with
  | case1 position => rw [Transcription.text, List.map_nil, entries_nil, List.map_nil]
  | case2 position c rest white ih =>
    rw [text_cons, entries, isWhite_char, if_pos white, position_right, ih]
  | case3 position c rest white entry ih =>
    rw [text_cons, entries, isWhite_char, if_neg white, List.map_cons]
    dsimp only
    rw [front_entry, entry_length, position_right, ← text_cons, ← text_drop, ih]

end Transcription

end CardDeck
