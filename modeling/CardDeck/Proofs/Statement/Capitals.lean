import CardDeck.Proofs.Statement.Columns
import CardDeck.Proofs.Statement.Local

set_option autoImplicit false

namespace CardDeck

theorem toUpper_of_not_isLower {c : Char} (other : ¬ c.isLower = true) : c.toUpper = c := by
  apply dif_neg
  rintro ⟨first, last⟩
  apply other
  rw [isLower_iff_toNat]
  exact ⟨UInt32.le_iff_toNat_le.mp first, UInt32.le_iff_toNat_le.mp last⟩

theorem toNat_toUpper {c : Char} (lower : c.isLower = true) : c.toUpper.toNat + 32 = c.toNat := by
  have bounds := isLower_iff_toNat.mp lower
  have range : 'a'.val ≤ c.val ∧ c.val ≤ 'z'.val :=
    ⟨UInt32.le_iff_toNat_le.mpr bounds.1, UInt32.le_iff_toNat_le.mpr bounds.2⟩
  have moved : c.toUpper.val = c.val + ('A'.val - 'a'.val) := by
    have same : c.toUpper = _ := dif_pos range
    rw [same]
  have shift : ('A'.val - 'a'.val).toNat = 2 ^ 32 - 32 := by decide
  have code : c.toUpper.val.toNat = (c.val.toNat + (2 ^ 32 - 32)) % 2 ^ 32 := by
    rw [moved, UInt32.toNat_add, shift]
  simp only [← Char.toNat_val] at bounds ⊢
  omega

theorem isAlpha_toUpper {c : Char} (alpha : c.isAlpha = true) : c.toUpper.isAlpha = true := by
  by_cases lower : c.isLower = true
  · have bounds := isLower_iff_toNat.mp lower
    have code := toNat_toUpper lower
    rw [isAlpha_iff_toNat]
    omega
  · rwa [toUpper_of_not_isLower lower]

theorem toUpper_either {upper lower : Char} (high : upper.isUpper = true)
    (pair : lower.toNat = upper.toNat + 32) (c : Char) :
    c.toUpper = upper ∨ c.toUpper = lower ↔ c = upper ∨ c = lower := by
  have bounds := isUpper_iff_toNat.mp high
  by_cases small : c.isLower = true
  · have code := toNat_toUpper small
    have range := isLower_iff_toNat.mp small
    simp only [← Char.toNat_inj]
    omega
  · rw [toUpper_of_not_isLower small]

/-- The deck is written in capital letters. -/
def Transcription.capitals : Transcription where
  char := Char.toUpper
  line n := n
  letter _ := isAlpha_toUpper
  other c plain := by
    apply toUpper_of_not_isLower
    intro lower
    have alpha : c.isAlpha = true := Bool.or_eq_true_iff.mpr (Or.inr lower)
    exact Bool.false_ne_true (plain.symm.trans alpha)
  exponent c := by
    have letters (d : Char) :
        d ∈ ['E', 'e', 'D', 'd'] ↔ (d = 'E' ∨ d = 'e') ∨ d = 'D' ∨ d = 'd' := by
      simp only [List.mem_cons, List.not_mem_nil, or_false, or_assoc]
    rw [Bool.eq_iff_iff, Lexeme.isExponentLetter_iff, Lexeme.isExponentLetter_iff, letters,
      letters]
    exact or_congr (toUpper_either (by decide) (by decide) c)
      (toUpper_either (by decide) (by decide) c)
  comment := toUpper_either (by decide) (by decide)
  line_lt _ _ := Iff.rfl

def Text.toUpper (text : Text) : Text := text.map Char.toUpper

def Card.toUpper (card : Card) : Card where
  line := card.line
  label := card.label.toUpper
  marker := card.marker.toUpper
  body := card.body.toUpper
  trailer := card.trailer.toUpper
  firstColumn := card.firstColumn.toUpper
  body_length := (List.length_map _).trans card.body_length

def Token.toUpper (token : Token) : Token := { token with lexeme := token.lexeme.toUpper }

def LexError.toUpper : LexError → LexError
  | strayCharacter ch position => .strayCharacter ch position
  | unterminatedLiteral lexeme position => .unterminatedLiteral lexeme.toUpper position
  | tooManyContinuations line limit => .tooManyContinuations line limit

/-- The statement with capital letters on its cards, in its lexemes and in its literals. -/
def Statement.toUpper (statement : Statement) : Statement where
  first := statement.first.toUpper
  continuations := statement.continuations.map Card.toUpper
  tokens := statement.tokens.map Token.toUpper
  errors := statement.errors.map LexError.toUpper

/-- The same reading, its tokens and its error in capital letters. -/
def Lexed.toUpper (lexed : Lexed) : Lexed where
  tokens := lexed.tokens.map Token.toUpper
  error := lexed.error.map LexError.toUpper

theorem Lexed.toUpper_after (token : Token) (later : Lexed) :
    (later.after token).toUpper = later.toUpper.after token.toUpper := rfl

namespace Text

theorem toUpper_cons (c : Char) (rest : Text) :
    Text.toUpper (c :: rest) = c.toUpper :: Text.toUpper rest := rfl

theorem toUpper_take (count : Nat) (text : Text) :
    Text.toUpper (text.take count) = (Text.toUpper text).take count := List.map_take

theorem toUpper_drop (count : Nat) (text : Text) :
    Text.toUpper (text.drop count) = (Text.toUpper text).drop count := List.map_drop

end Text

namespace Joined

theorem text_toUpper (cards : List Card) :
    text (cards.map Card.toUpper) = (text cards).toUpper := by
  rw [text, text, Text.toUpper, List.map_flatMap, List.flatMap_map]
  rfl

theorem place_toUpper (cards : List Card) (index : Nat) :
    place (cards.map Card.toUpper) index = place cards index := by
  rw [place, place, List.map_map]
  rfl

/-- Reading capital letters comes to the same tokens and the same error, in capital letters. -/
theorem lexFrom_toUpper (cards : List Card) (index : Nat) (rest : Text) :
    lexFrom (cards.map Card.toUpper) index (Text.toUpper rest) =
      (lexFrom cards index rest).toUpper := by
  have white : ∀ c : Char, isWhite c.toUpper = isWhite c := Transcription.capitals.isWhite_char
  have delimited : ∀ c : Char, isDelimiter c.toUpper = isDelimiter c :=
    Transcription.capitals.isDelimiter_char
  have fixed : ∀ c : Char, c.isAlpha = false → c.toUpper = c := Transcription.capitals.other
  fun_induction lexFrom cards index rest with
  | case1 index => exact lexFrom_nil _ _
  | case2 index c rest blank ih =>
    rw [Text.toUpper_cons, lexFrom_white ((white c).trans blank), ih]
  | case3 index c rest plain delimiter n closed ih =>
    have alone := Transcription.isAlpha_of_isDelimiter delimiter
    have found : closing? c (Text.toUpper rest) = some n :=
      (Transcription.capitals.closing?_text alone rest).trans closed
    rw [Text.toUpper_cons, fixed c alone, lexFrom, if_neg plain, if_pos delimiter, found]
    simp only [place_toUpper, ← Text.toUpper_take, ← Text.toUpper_drop, ih]
    rw [Lexed.toUpper_after, Token.toUpper, Text.toUpper_cons, fixed c alone]
  | case4 index c rest plain delimiter opened =>
    have alone := Transcription.isAlpha_of_isDelimiter delimiter
    have found : closing? c (Text.toUpper rest) = none :=
      (Transcription.capitals.closing?_text alone rest).trans opened
    rw [Text.toUpper_cons, fixed c alone, lexFrom, if_neg plain, if_pos delimiter, found,
      place_toUpper]
    show _ = Lexed.mk [] (some (.unterminatedLiteral (Text.toUpper (c :: rest)) _))
    rw [Text.toUpper_cons, fixed c alone]
  | case5 index c rest plain other kind length found ih =>
    have same : lexeme? c.toUpper (Text.toUpper (rest.take (room index))) = some (kind, length) :=
      (Transcription.capitals.lexeme?_text c _).trans found
    rw [Text.toUpper_take] at same
    rw [Text.toUpper_cons, lexFrom, white, if_neg plain, delimited, if_neg other, same]
    simp only [place_toUpper, ← Text.toUpper_cons, ← Text.toUpper_take, ← Text.toUpper_drop, ih]
    rfl
  | case6 index c rest plain other none =>
    have same : lexeme? c (Text.toUpper (rest.take (room index))) = Option.none := by
      have found := Transcription.capitals.lexeme?_text c (rest.take (room index))
      rw [none] at found
      rw [← fixed c (isAlpha_of_lexeme?_eq_none none)]
      exact found
    rw [Text.toUpper_take] at same
    rw [Text.toUpper_cons, fixed c (isAlpha_of_lexeme?_eq_none none), lexFrom, if_neg plain,
      if_neg other, same, place_toUpper]
    rfl

theorem lex_toUpper (cards : List Card) : lex (cards.map Card.toUpper) = (lex cards).toUpper := by
  rw [lex, text_toUpper, lexFrom_toUpper, lex]

end Joined

namespace LexError

theorem isLate_toUpper (cards : List Card) (error : LexError) :
    isLate cards error.toUpper = isLate cards error := by
  cases error <;> rfl

theorem inOrder_toUpper (limit : Option UInt64) (first : Card) (continuations : List Card)
    (found : Option LexError) :
    inOrder limit first.toUpper (continuations.map Card.toUpper) (found.map LexError.toUpper) =
      (inOrder limit first continuations found).map LexError.toUpper := by
  have lines : (continuations.map Card.toUpper).map Card.line = continuations.map Card.line := by
    rw [List.map_map]
    rfl
  have start : first.toUpper.line = first.line := rfl
  have same : (found.map toUpper).toList = found.toList.map toUpper := by cases found <;> rfl
  have late (cards : List Card) :
      (found.toList.map toUpper).any (isLate cards) = found.toList.any (isLate cards) := by
    rw [List.any_map]
    exact congrArg found.toList.any (funext (isLate_toUpper cards))
  rw [inOrder_congr start lines]
  cases limit with
  | none => exact same
  | some limit =>
    simp only [inOrder, same, late]
    split
    · rfl
    · split
      · rfl
      · rw [List.map_append]
        rfl

end LexError

theorem Statement.ofJoined_toUpper (limit : Option UInt64) (first : Card)
    (continuations : List Card) :
    ofJoined limit first.toUpper (continuations.map Card.toUpper) =
      (ofJoined limit first continuations).toUpper := by
  have last : ((continuations.map Card.toUpper).getLastD first.toUpper).line =
      (continuations.getLastD first).line := by rw [List.getLastD_map]; rfl
  have lexed := Joined.lex_toUpper (first :: continuations)
  rw [List.map_cons] at lexed
  rw [ofJoined, ofJoined, lexed, last]
  simp only [Lexed.toUpper, LexError.inOrder_toUpper]
  rw [toUpper, List.map_append]
  rfl

namespace Options

theorem toUpper_carries (options : Options) :
    options.Carries options (fun card twin => twin = card.toUpper) (fun _ _ => True)
      (fun statement other => other = statement.toUpper) := by
  refine ⟨⟨?_, ?_, ?_⟩, fun _ _ _ _ _ => trivial, ?_⟩
  · rintro card _ rfl
    rfl
  · rintro card _ rfl
    exact Transcription.capitals.ignores_card options card
  · rintro card _ rfl
    exact Transcription.capitals.card_isContinuation card
  · rintro first _ continuations followers - rfl tail
    obtain rfl := eq_map_of_forall₂ tail
    exact Statement.ofJoined_toUpper _ first continuations

end Options

namespace Card

theorem ofLines_toUpper (line : Nat) (texts : List Text) :
    ofLines line (texts.map Text.toUpper) = (ofLines line texts).map Card.toUpper := by
  induction texts generalizing line with
  | nil => rfl
  | cons text texts ih =>
    rw [List.map_cons, ofLines_cons, ih, ofLines_cons, List.map_cons]
    exact congrArg (· :: _) (Transcription.capitals.card_ofLine line text)

theorem ofText_toUpper (text : Text) :
    ofText (Text.toUpper text) = (ofText text).map Card.toUpper := by
  have lines : Lines.all '\n' (Text.toUpper text) = (Lines.all '\n' text).map Text.toUpper :=
    Lines.all_map (Transcription.capitals.char_eq_iff (by decide)) text
  rw [ofText, lines, ofLines_toUpper, ofText]

end Card

namespace Statements

/--
The statements of a text in capital letters are the statements of the text in capital letters: each
has its cards, its lexemes and its open literal so, and is the same in all that is no letter.
-/
theorem run_toUpper {options : Options} (counted : options.maxContinuations ≠ some topLimit)
    (text : Text) :
    ∃ statements : List Statement,
      (ofText options text).run = { results := statements.map .ok } ∧
      (ofText options (text.map Char.toUpper)).run =
        { results := (statements.map Statement.toUpper).map .ok } := by
  have alike : List.Forall₂ (fun card twin => twin = card.toUpper) (Card.ofText text)
      ((Card.ofText text).map Card.toUpper) := by
    rw [List.forall₂_map_right_iff]
    exact List.forall₂_same.mpr fun _ _ => rfl
  have items : (Feed.ofText (Text.toUpper text)).items =
      ((Card.ofText text).map Card.toUpper).map .ok := by
    rw [Feed.items_ofText, Card.ofText_toUpper]
  obtain ⟨statements, capitals, run, run', pairs⟩ :=
    run_twins options.toUpper_carries counted counted (Feed.items_ofText text) items
      (Card.ofText_ascending text) alike fun _ _ _ _ => trivial
  obtain rfl := eq_map_of_forall₂ pairs
  exact ⟨statements, run, run'⟩

/--
Letters in every use: an exponent, a number before a dotted word, a comment, a marker, a literal
that goes on over a card and one that stays open; and a character that starts no token.
-/
def smallText : Text :=
  "c note\n   l1 a_b = 1.e5 + 2.eq.3d-1\n     x+ 'it''s'\n      w ? y\n     z'open".toList

theorem run_toUpper_small :
    ∃ statements : List Statement,
      (ofText { comments := true, maxContinuations := some 0 } smallText).run =
        { results := statements.map .ok } ∧
      (ofText { comments := true, maxContinuations := some 0 }
          (smallText.map Char.toUpper)).run =
        { results := (statements.map Statement.toUpper).map .ok } :=
  run_toUpper (by decide) smallText

end Statements

end CardDeck
