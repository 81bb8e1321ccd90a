import CardDeck.Proofs.Literal.Reached
import CardDeck.Proofs.Statement.Joined
import CardDeck.Proofs.Token.Scanned

set_option autoImplicit false

namespace CardDeck

/-- The characters that lexemes are made of. -/
def isLexemeChar (c : Char) : Bool :=
  c.isAlpha || c.isDigit || "_.+-*/=(),:<>".toList.contains c

theorem isLexemeChar_of_isAlpha {c : Char} (alpha : c.isAlpha = true) : isLexemeChar c = true := by
  rw [isLexemeChar, alpha, Bool.true_or, Bool.true_or]

theorem isLexemeChar_of_isDigit {c : Char} (digit : c.isDigit = true) : isLexemeChar c = true := by
  rw [isLexemeChar, digit, Bool.or_true, Bool.true_or]

theorem isWhite_of_isLexemeChar {c : Char} (among : isLexemeChar c = true) : isWhite c = false := by
  have code : 0x20 < c.toNat ∧ c.toNat < 0x7F := by
    rw [isLexemeChar, Bool.or_eq_true, Bool.or_eq_true] at among
    rcases among with (alpha | digit) | mark
    · have letter := isAlpha_iff_toNat.mp alpha
      omega
    · have number : 48 ≤ c.toNat ∧ c.toNat ≤ 57 := Char.isDigit_iff_toNat.mp digit
      omega
    · have marks : ("_.+-*/=(),:<>".toList.all fun d =>
          0x20 < d.toNat ∧ d.toNat < 0x7F) = true := by decide
      exact of_decide_eq_true (List.all_eq_true.mp marks c (List.contains_iff_mem.mp mark))
  exact isWhite_of_graphic code.1 code.2

theorem isDelimiter_of_isLexemeChar {c : Char} (among : isLexemeChar c = true) :
    isDelimiter c = false := by
  rw [Bool.eq_false_iff]
  intro quote
  rw [isDelimiter, Bool.or_eq_true, beq_iff_eq, beq_iff_eq] at quote
  rcases quote with rfl | rfl
  · revert among
    decide
  · revert among
    decide

theorem isLexemeChar_of_digits {text : Text} (digits : ∀ c ∈ text, c.isDigit = true) :
    text.all isLexemeChar = true :=
  List.all_eq_true.mpr fun c member => isLexemeChar_of_isDigit (digits c member)

theorem Power.chars {text : Text} (power : Power text) : text.all isLexemeChar = true := by
  obtain ⟨letters, signs, number⟩ := power
  have letter : (['E', 'e', 'D', 'd'].all isLexemeChar) = true := by decide
  have sign : ([[], ['+'], ['-']].all fun text : Text => text.all isLexemeChar) = true := by decide
  rw [List.all_cons, List.all_append, List.all_eq_true.mp letter _ letters,
    List.all_eq_true.mp sign _ signs, isLexemeChar_of_digits number.2]
  rfl

theorem Power.chars_of_or {text : Text} (scale : text = [] ∨ Power text) :
    text.all isLexemeChar = true := by
  rcases scale with rfl | power
  · rfl
  · exact power.chars

theorem TokenKind.Language.chars {kind : TokenKind} {text : Text} (form : kind.Language text) :
    text.all isLexemeChar = true := by
  have point : isLexemeChar '.' = true := by decide
  cases form with
  | identifier letter others =>
    rw [List.all_cons, isLexemeChar_of_isAlpha letter, Bool.true_and, List.all_eq_true]
    intro d member
    rcases others d member with alpha | digit | rfl
    · exact isLexemeChar_of_isAlpha alpha
    · exact isLexemeChar_of_isDigit digit
    · decide
  | integer number => exact isLexemeChar_of_digits number.2
  | pointed number digits scale =>
    rw [List.all_append, List.all_cons, List.all_append, isLexemeChar_of_digits number.2, point,
      isLexemeChar_of_digits digits, Power.chars_of_or scale]
    rfl
  | bare number scale =>
    rw [List.all_cons, List.all_append, point, isLexemeChar_of_digits number.2,
      Power.chars_of_or scale]
    rfl
  | scaled number scale =>
    rw [List.all_append, isLexemeChar_of_digits number.2, scale.chars]
    rfl
  | dotted letters =>
    rw [List.all_cons, List.all_append, List.all_cons, point,
      List.all_eq_true.mpr fun c member => isLexemeChar_of_isAlpha (letters.2 c member)]
    rfl
  | operator listed =>
    have marks : (operators.all fun text => text.all isLexemeChar) = true := by decide
    exact List.all_eq_true.mp marks text listed

theorem TokenKind.Language.ne_nil {kind : TokenKind} {text : Text} (form : kind.Language text) :
    text ≠ [] := by
  cases form with
  | identifier letter others => exact List.cons_ne_nil _ _
  | integer number => exact number.1
  | pointed number digits scale => exact List.append_ne_nil_of_left_ne_nil number.1 _
  | bare number scale => exact List.cons_ne_nil _ _
  | scaled number scale => exact List.append_ne_nil_of_left_ne_nil number.1 _
  | dotted letters => exact List.cons_ne_nil _ _
  | operator listed =>
    rintro rfl
    revert listed
    decide

theorem not_mem_of_digits {text : Text} (digits : ∀ c ∈ text, c.isDigit = true) {c : Char}
    (other : c.isDigit = false) : c ∉ text := by
  intro member
  rw [digits c member] at other
  cases other

theorem Power.count_point {text : Text} (scale : text = [] ∨ Power text) : text.count '.' = 0 := by
  rw [List.count_eq_zero]
  rcases scale with rfl | ⟨letters, signs, number⟩
  · exact List.not_mem_nil
  · have sign : ([[], ['+'], ['-']].all fun text : Text => '.' ∉ text) = true := by decide
    rw [List.mem_cons, List.mem_append, not_or, not_or]
    refine ⟨?_, ?_, not_mem_of_digits number.2 (by decide)⟩
    · rintro rfl
      revert letters
      decide
    · exact of_decide_eq_true (List.all_eq_true.mp sign _ signs)

theorem TokenKind.Language.count_point {kind : TokenKind} {text : Text} (form : kind.Language text)
    (digit : text.head?.any Char.isDigit = true) : text.count '.' ≤ 1 := by
  have none {text : Text} (digits : ∀ c ∈ text, c.isDigit = true) : text.count '.' = 0 :=
    List.count_eq_zero.mpr (not_mem_of_digits digits (by decide))
  cases form with
  | identifier letter others =>
    have other : Char.isDigit _ = true := digit
    rw [isDigit_eq_false_of_isAlpha letter] at other
    cases other
  | integer number => exact Nat.le_succ_of_le (Nat.le_of_eq (none number.2))
  | pointed number digits scale =>
    have whole := none number.2
    have fraction := none digits
    have power := Power.count_point scale
    rw [List.count_append, List.count_cons_self, List.count_append]
    omega
  | bare number scale => cases digit
  | scaled number scale =>
    have whole := none number.2
    have power := Power.count_point (Or.inr scale)
    rw [List.count_append]
    omega
  | dotted letters => cases digit
  | operator listed =>
    have marks : (operators.all fun text => !text.head?.any Char.isDigit) = true := by decide
    have mark := List.all_eq_true.mp marks text listed
    rw [digit] at mark
    cases mark

theorem prefix_of_not_mem {front text rest : Text} {c : Char} (whole : front <+: text ++ c :: rest)
    (lacking : c ∉ front) : front <+: text := by
  rcases List.prefix_or_prefix_of_prefix whole (List.prefix_append text (c :: rest)) with
    inside | ⟨more, rfl⟩
  · exact inside
  · have left := (List.prefix_append_right_inj text).mp whole
    cases more with
    | nil => exact (List.append_nil text).symm ▸ List.prefix_refl text
    | cons d more =>
      obtain ⟨rfl, -⟩ := List.cons_prefix_cons.mp left
      exact absurd (List.mem_append_right _ List.mem_cons_self) lacking

namespace Entry

variable {kind : TokenKind} {lexeme rest : Text} {blank : Char}

theorem prefix_of_chars {front : Text} (chars : front.all isLexemeChar = true)
    (white : isWhite blank = true) (whole : front <+: lexeme ++ blank :: rest) :
    front <+: lexeme := by
  apply prefix_of_not_mem whole
  intro member
  have plain := isWhite_of_isLexemeChar (List.all_eq_true.mp chars blank member)
  rw [white] at plain
  cases plain

/-- A lexeme that white space ends is not parted by a dotted word. -/
theorem not_parted (form : kind.Language lexeme) (white : isWhite blank = true) (digits : Text) :
    ¬ Parted (lexeme ++ blank :: rest) digits := by
  rintro ⟨number, word, after, dotted, same⟩
  have chars : (digits ++ word).all isLexemeChar = true := by
    rw [List.all_append, isLexemeChar_of_digits number.2, dotted.chars]
    rfl
  have front : digits ++ word <+: lexeme :=
    prefix_of_chars chars white ⟨after, (List.append_assoc _ _ _).trans same.symm⟩
  have digit : lexeme.head?.any Char.isDigit = true := by
    obtain ⟨c, more, rfl, digit⟩ := number.head
    obtain ⟨others, rfl⟩ := front
    exact digit
  -- the dotted word has two points, and a number one at most
  have points := Nat.le_trans (front.count_le '.') (form.count_point digit)
  cases dotted with
  | dotted letters =>
    rw [List.count_append, List.count_cons_self, List.count_append, List.count_singleton_self]
      at points
    omega

/-- Where white space ends a lexeme, no step takes less or more. -/
theorem front_of_language {c : Char} {more : Text} (form : kind.Language (c :: more))
    (white : isWhite blank = true) (position : Position) :
    front position c (more ++ blank :: rest) = .token ⟨kind, c :: more, position⟩ := by
  have first : isLexemeChar c = true := List.all_eq_true.mp form.chars c List.mem_cons_self
  have scanned : Scanned position c (more ++ blank :: rest)
      (.token ⟨kind, c :: more, position⟩) := by
    apply Scanned.longest (isDelimiter_of_isLexemeChar first) (not_parted form white)
    · refine ⟨List.prefix_append _ _, ⟨kind, form⟩, ?_⟩
      rintro other front ⟨otherKind, form'⟩
      exact (prefix_of_chars form'.chars white front).length_le
    · intro otherKind
      constructor
      · exact form.kind_unique
      · rintro rfl
        exact form
  exact scanned.eq_front.symm

/-- Where white space stands behind a whole literal, it is no second delimiter. -/
theorem front_of_enclosed {delimiter : Char} {content : Text} (quote : isDelimiter delimiter = true)
    (terminated : Terminated delimiter content) (white : isWhite blank = true)
    (position : Position) :
    front position delimiter (content ++ blank :: rest) =
      .token ⟨.character, delimiter :: content, position⟩ := by
  obtain ⟨inner, inside, rfl⟩ := terminated
  have other : blank ≠ delimiter := by
    rintro rfl
    rw [Joined.isWhite_of_isDelimiter quote] at white
    cases white
  have closes : Closes delimiter ((inner ++ [delimiter]) ++ blank :: rest) inner :=
    ⟨inside, blank, rest, other, List.append_assoc _ _ _⟩
  rw [front, if_pos quote, literal_of_closes closes]

end Entry

/-- How a token of the kind can be written: as a lexeme, or as a whole literal on one line. -/
inductive TokenKind.Spelled : TokenKind → Text → Prop where
  | lexeme {kind : TokenKind} {text : Text} (form : kind.Language text) : Spelled kind text
  | literal {delimiter : Char} {text : Text} (quote : isDelimiter delimiter = true)
    (whole : Enclosed delimiter text) (oneLine : '\n' ∉ text) : Spelled .character text

namespace TokenKind.Spelled

theorem of_lexeme? {kind : TokenKind} {c : Char} {rest : Text}
    (whole : lexeme? c rest = some (kind, rest.length + 1)) : kind.Spelled (c :: rest) := by
  have form := lexeme?_language whole
  rw [← List.length_cons, List.take_length] at form
  exact .lexeme form

theorem of_closing? {delimiter : Char} {content : Text} (quote : isDelimiter delimiter = true)
    (closed : closing? delimiter content = some content.length)
    (oneLine : '\n' ∉ delimiter :: content) : Spelled .character (delimiter :: content) := by
  have terminated := (terminated_take closed).1
  rw [List.take_length] at terminated
  exact .literal quote ⟨content, terminated, rfl⟩ oneLine

end TokenKind.Spelled

/-- A token without its place. -/
structure Word where
  kind : TokenKind
  lexeme : Text
  spelled : kind.Spelled lexeme

namespace Word

/-- The words with one blank between two. -/
def joined (words : List Word) : Text := [' '].intercalate (words.map lexeme)

/-- The tokens of words that are written from the position on with one blank between two. -/
def tokens (position : Position) : List Word → List Token
  | [] => []
  | word :: words =>
    ⟨word.kind, word.lexeme, position⟩ :: tokens (position.right (word.lexeme.length + 1)) words

@[simp] theorem joined_nil : joined [] = [] := rfl

@[simp] theorem joined_singleton (word : Word) : joined [word] = word.lexeme :=
  List.intercalate_singleton

@[simp] theorem joined_cons_cons (word next : Word) (words : List Word) :
    joined (word :: next :: words) = word.lexeme ++ ' ' :: joined (next :: words) := by
  rw [joined, List.map_cons, List.map_cons, List.intercalate_cons_cons, List.append_assoc]
  rfl

theorem edges (word : Word) :
    (∃ c more, word.lexeme = c :: more ∧ isWhite c = false) ∧
      (∃ front d, word.lexeme = front ++ [d] ∧ isWhite d = false) ∧ '\n' ∉ word.lexeme := by
  obtain ⟨kind, text, spelled⟩ := word
  cases spelled with
  | lexeme form =>
    have plain : ∀ c ∈ text, isWhite c = false := fun c member =>
      isWhite_of_isLexemeChar (List.all_eq_true.mp form.chars c member)
    refine ⟨?_, ?_, ?_⟩
    · obtain ⟨c, more, rfl⟩ := List.exists_cons_of_ne_nil form.ne_nil
      exact ⟨c, more, rfl, plain c List.mem_cons_self⟩
    · refine ⟨text.dropLast, text.getLast form.ne_nil, ?_, plain _ (List.getLast_mem form.ne_nil)⟩
      exact (List.dropLast_concat_getLast form.ne_nil).symm
    · intro member
      have newline : isWhite '\n' = true := by decide
      rw [plain _ member] at newline
      cases newline
  | @literal delimiter _ quote whole oneLine =>
    have plain := Joined.isWhite_of_isDelimiter quote
    obtain ⟨_, ⟨inner, inside, rfl⟩, rfl⟩ := whole
    exact ⟨⟨delimiter, _, rfl, plain⟩, ⟨delimiter :: inner, delimiter, rfl, plain⟩, oneLine⟩

theorem entries_append (word : Word) {blank : Char} (white : isWhite blank = true)
    (position : Position) (rest : Text) :
    entries position (word.lexeme ++ blank :: rest) =
      .token ⟨word.kind, word.lexeme, position⟩ ::
        entries (position.right (word.lexeme.length + 1)) rest := by
  obtain ⟨⟨c, more, text, plain⟩, -⟩ := word.edges
  have front : Entry.front position c (more ++ blank :: rest) =
      .token ⟨word.kind, word.lexeme, position⟩ := by
    have spelled := word.spelled
    rw [text] at spelled ⊢
    generalize word.kind = kind at spelled
    cases spelled with
    | lexeme form => exact Entry.front_of_language form white position
    | literal quote whole oneLine =>
      obtain ⟨content, terminated, same⟩ := whole
      obtain ⟨rfl, rfl⟩ := List.cons.inj same
      exact Entry.front_of_enclosed quote terminated white position
  have left : (c :: (more ++ blank :: rest)).drop word.lexeme.length = blank :: rest := by
    rw [text, ← List.cons_append, List.drop_left]
  have start : word.lexeme ++ blank :: rest = c :: (more ++ blank :: rest) := by
    rw [text, List.cons_append]
  rw [start, entries, plain, if_neg Bool.false_ne_true]
  simp only [front, Entry.length]
  rw [left, entries, if_pos white, Position.right_right]

theorem entries_replicate (position : Position) (count : Nat) :
    entries position (List.replicate count ' ') = [] := by
  induction count generalizing position with
  | zero => exact entries_nil position
  | succ count ih => rw [List.replicate_succ, entries, if_pos isWhite_space, ih]

/-- Words with blanks behind them are read as they were written. -/
theorem entries_joined (words : List Word) (position : Position) {count : Nat}
    (some : 0 < count) :
    entries position (joined words ++ List.replicate count ' ') =
      (tokens position words).map .token := by
  induction words generalizing position with
  | nil => exact entries_replicate position count
  | cons word words ih =>
    cases words with
    | nil =>
      obtain ⟨count, rfl⟩ := Nat.exists_eq_add_of_lt some
      rw [joined_singleton, Nat.zero_add, List.replicate_succ,
        word.entries_append isWhite_space, entries_replicate]
      rfl
    | cons next words =>
      rw [joined_cons_cons, List.append_assoc, List.cons_append,
        word.entries_append isWhite_space, ih]
      rfl

theorem joined_edges (word : Word) (words : List Word) :
    (∃ front d, joined (word :: words) = front ++ [d] ∧ isWhite d = false) ∧
      '\n' ∉ joined (word :: words) := by
  induction words generalizing word with
  | nil =>
    rw [joined_singleton]
    exact word.edges.2
  | cons next words ih =>
    obtain ⟨⟨front, d, last, plain⟩, further⟩ := ih next
    rw [joined_cons_cons]
    constructor
    · refine ⟨word.lexeme ++ ' ' :: front, d, ?_, plain⟩
      rw [last, List.append_assoc, List.cons_append]
    · intro member
      rcases List.mem_append.mp member with here | there
      · exact word.edges.2.2 here
      · exact further (List.mem_of_ne_of_mem (by decide) there)

end Word

end CardDeck
