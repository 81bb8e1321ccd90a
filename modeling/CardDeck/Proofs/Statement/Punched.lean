import CardDeck.Proofs.Statement.Local
import Mathlib.Data.List.TakeWhile

set_option autoImplicit false

namespace CardDeck

namespace Text

theorem trimEnd_eq_nil_iff {text : Text} : trimEnd text = [] ↔ ∀ c ∈ text, isWhite c = true := by
  rw [trimEnd, List.reverse_eq_nil_iff, List.dropWhile_eq_nil_iff]
  simp only [List.mem_reverse]

theorem trim_eq_nil_iff {text : Text} : trim text = [] ↔ ∀ c ∈ text, isWhite c = true := by
  rw [trim, trimEnd_eq_nil_iff, trimStart]
  constructor
  · intro left c member
    rw [← List.takeWhile_append_dropWhile (p := isWhite) (l := text)] at member
    rcases List.mem_append.mp member with front | back
    · exact List.mem_takeWhile_imp front
    · exact left c back
  · intro white c member
    exact white c (List.dropWhile_subset isWhite member)

theorem forall_mem_columns {p : Char → Prop} (text : Text) (start width : Nat) :
    (∀ c ∈ (text.drop start).take width, p c) ↔
      ∀ column c, start ≤ column → column < start + width → text[column]? = some c → p c := by
  constructor
  · intro all column c after before found
    apply all c
    rw [List.mem_iff_getElem?]
    refine ⟨column - start, ?_⟩
    rw [List.getElem?_take_of_lt (by omega), List.getElem?_drop, Nat.add_sub_cancel' after, found]
  · intro all c member
    obtain ⟨offset, found⟩ := List.mem_iff_getElem?.mp member
    rw [List.getElem?_take] at found
    split at found
    · rename_i inside
      rw [List.getElem?_drop] at found
      exact all (start + offset) c (Nat.le_add_right _ _) (by omega) found
    · cases found

/-- A column up to the trailer holds a character that is not white. -/
def Punched (text : Text) : Prop :=
  ∃ column c, column < trailerColumn - 1 ∧ text.dropFinalReturn[column]? = some c ∧
    isWhite c = false

/-- A column up to the trailer holds a character that is neither white nor a zero for a marker. -/
def Marked (text : Text) : Prop :=
  ∃ column c, column < trailerColumn - 1 ∧ text.dropFinalReturn[column]? = some c ∧
    isWhite c = false ∧ ¬ (column = 5 ∧ c = '0')

theorem punched_iff {text : Text} :
    text.Punched ↔ text.Marked ∨ text.dropFinalReturn[5]? = some '0' := by
  constructor
  · rintro ⟨column, c, inside, found, ink⟩
    by_cases zero : column = 5 ∧ c = '0'
    · right
      rw [← zero.1, ← zero.2, found]
    · exact Or.inl ⟨column, c, inside, found, ink, zero⟩
  · rintro (⟨column, c, inside, found, ink, -⟩ | zero)
    · exact ⟨column, c, inside, found, ink⟩
    · exact ⟨5, '0', by decide, zero, by decide⟩

end Text

namespace Card

theorem isContinuation_eq_false_iff {card : Card} :
    card.isContinuation = false ↔ isWhite card.marker = true ∨ card.marker = '0' := by
  simp only [isContinuation, Bool.not_eq_false', Bool.or_eq_true, beq_iff_eq]

/-- A zero for a marker does not keep a card from being blank. -/
theorem isBlank_iff {card : Card} :
    card.isBlank = true ↔ card.label = [] ∧ (isWhite card.marker = true ∨ card.marker = '0') ∧
      ∀ c ∈ card.body, isWhite c = true := by
  simp only [isBlank, Bool.and_eq_true, List.isEmpty_iff, Bool.not_eq_true',
    isContinuation_eq_false_iff, Text.trim_eq_nil_iff, and_assoc]

section Fields

variable (line : Nat) (text : Text)

theorem label_ofLine_eq_nil_iff : (ofLine line text).label = [] ↔
    ∀ column c, column < 5 → text.dropFinalReturn[column]? = some c → isWhite c = true := by
  show Text.trim ((text.dropFinalReturn.take cardWidth).take 5) = [] ↔ _
  rw [List.take_take, Nat.min_eq_left (by decide), Text.trim_eq_nil_iff]
  simpa using text.dropFinalReturn.forall_mem_columns (p := fun c => isWhite c = true) 0 5

/-- Past the end of the line the marker is a space. -/
theorem marker_ofLine_iff : (isWhite (ofLine line text).marker = true ∨
      (ofLine line text).marker = '0') ↔
    ∀ c, text.dropFinalReturn[5]? = some c → isWhite c = true ∨ c = '0' := by
  have marker : (ofLine line text).marker = (text.dropFinalReturn[5]?).getD ' ' := by
    show (text.dropFinalReturn.take cardWidth).getD 5 ' ' = _
    rw [List.getD_eq_getElem?_getD, List.getElem?_take_of_lt (by decide)]
  rw [marker]
  cases text.dropFinalReturn[5]? with
  | none => simp [isWhite_space]
  | some c => simp

theorem body_ofLine_iff : (∀ c ∈ (ofLine line text).body, isWhite c = true) ↔
    ∀ column c, 6 ≤ column → column < trailerColumn - 1 →
      text.dropFinalReturn[column]? = some c → isWhite c = true := by
  have whole : ((text.dropFinalReturn.take cardWidth).drop 6).take bodyWidth =
      (text.dropFinalReturn.drop 6).take bodyWidth := by
    rw [List.drop_take, List.take_take, Nat.min_eq_left (by decide)]
  show (∀ c ∈ List.rightpad bodyWidth ' ' _, _) ↔ _
  rw [whole, List.rightpad]
  have width : trailerColumn - 1 = 6 + bodyWidth := rfl
  rw [width, ← text.dropFinalReturn.forall_mem_columns 6 bodyWidth]
  constructor
  · intro all c member
    exact all c (List.mem_append_left _ member)
  · intro all c member
    rcases List.mem_append.mp member with punched | padding
    · exact all c punched
    · rw [List.eq_of_mem_replicate padding]
      exact isWhite_space

theorem isBlank_ofLine_iff : (ofLine line text).isBlank = true ↔ ¬ text.Marked := by
  rw [isBlank_iff, label_ofLine_eq_nil_iff, marker_ofLine_iff, body_ofLine_iff]
  -- A column before that of the marker belongs to the label, and one behind it to the body.
  constructor
  · rintro ⟨label, marker, body⟩ ⟨column, c, inside, found, ink, other⟩
    rcases Nat.lt_trichotomy column 5 with before | rfl | behind
    · rw [label column c before found] at ink
      cases ink
    · rcases marker c found with white | zero
      · rw [white] at ink
        cases ink
      · exact other ⟨rfl, zero⟩
    · rw [body column c behind inside found] at ink
      cases ink
  · intro bare
    have white : ∀ column c, column < trailerColumn - 1 → text.dropFinalReturn[column]? = some c →
        isWhite c = true ∨ (column = 5 ∧ c = '0') := by
      intro column c inside found
      apply Classical.byContradiction
      intro told
      rw [not_or, Bool.not_eq_true] at told
      exact bare ⟨column, c, inside, found, told⟩
    refine ⟨?_, ?_, ?_⟩
    · intro column c before found
      rcases white column c (Nat.lt_trans before (by decide)) found with blank | ⟨same, -⟩
      · exact blank
      · omega
    · intro c found
      exact (white 5 c (by decide) found).imp_right And.right
    · intro column c behind inside found
      rcases white column c inside found with blank | ⟨same, -⟩
      · exact blank
      · omega

end Fields

theorem getElem?_ofText (deck : Text) (line : Nat) :
    (ofText deck)[line]? = (Lines.all '\n' deck)[line]?.map (ofLine (line + 1)) := by
  rw [ofText, ofLines, List.getElem?_map, List.getElem?_zipIdx, Option.map_map, Nat.add_comm 1]
  rfl

end Card

theorem Ascending.nodup {cards : List Card} (lines : Ascending cards) : cards.Nodup := by
  apply lines.imp
  intro card later before same
  rw [same] at before
  exact Nat.lt_irrefl _ before

theorem Options.ignores_iff {options : Options} (plain : options.comments = false) (card : Card) :
    options.ignores card = true ↔ options.skipBlank = true ∧ card.isBlank = true := by
  simp only [ignores, plain, Bool.false_and, Bool.false_or, Bool.and_eq_true]

/-- How many of the statements have the card. -/
def holders (statements : List Statement) (card : Card) : Nat :=
  statements.countP (card ∈ ·.cards)

theorem holders_of_not_mem {statements : List Statement} {card : Card}
    (other : card ∉ statements.flatMap Statement.cards) : holders statements card = 0 := by
  rw [holders, List.countP_eq_zero]
  intro statement member holds
  exact other (List.mem_flatMap.mpr ⟨statement, member, of_decide_eq_true holds⟩)

theorem holders_of_mem {statements : List Statement} {card : Card}
    (once : (statements.flatMap Statement.cards).Nodup)
    (member : card ∈ statements.flatMap Statement.cards) : holders statements card = 1 := by
  induction statements with
  | nil => cases member
  | cons statement later ih =>
    rw [List.flatMap_cons] at once member
    obtain ⟨-, further, apart⟩ := List.nodup_append.mp once
    rw [holders, List.countP_cons, ← holders]
    by_cases here : card ∈ statement.cards
    · have absent : card ∉ later.flatMap Statement.cards := by
        intro there
        exact apart card here card there rfl
      rw [holders_of_not_mem absent, if_pos (decide_eq_true here)]
    · have there := (List.mem_append.mp member).resolve_left here
      rw [ih further there, if_neg (by simpa using here)]

namespace Statements

section Kept

variable {options : Options} {deck : Text} {statements : List Statement}

theorem holders_ofLine (plain : options.comments = false)
    (partition : Partition statements ((Card.ofText deck).filter fun card => !options.ignores card))
    {line : Nat} {text : Text} (there : (Lines.all '\n' deck)[line]? = some text) :
    (options.skipBlank = false ∨ text.Marked →
      holders statements (Card.ofLine (line + 1) text) = 1) ∧
    (options.skipBlank = true ∧ ¬ text.Marked →
      holders statements (Card.ofLine (line + 1) text) = 0) := by
  have ignored := Options.ignores_iff plain (Card.ofLine (line + 1) text)
  rw [Card.isBlank_ofLine_iff] at ignored
  constructor
  · intro kept
    have once := ((Card.ofText_ascending deck).sublist
      (List.filter_sublist (p := fun card => !options.ignores card))).nodup
    have member : Card.ofLine (line + 1) text ∈ Card.ofText deck := by
      apply List.mem_of_getElem? (i := line)
      rw [Card.getElem?_ofText, there]
      rfl
    rw [← partition.cards] at once
    apply holders_of_mem once
    rw [partition.cards, List.mem_filter, Bool.not_eq_true', Bool.eq_false_iff]
    refine ⟨member, ?_⟩
    intro dropped
    obtain ⟨skip, bare⟩ := ignored.mp dropped
    rcases kept with all | marked
    · rw [skip] at all
      cases all
    · exact bare marked
  · intro dropped
    apply holders_of_not_mem
    rw [partition.cards, List.mem_filter, ignored.mpr dropped]
    simp

theorem holders_punched_iff (plain : options.comments = false)
    (partition : Partition statements
      ((Card.ofText deck).filter fun card => !options.ignores card)) :
    (∀ line text, (Lines.all '\n' deck)[line]? = some text → text.Punched →
      holders statements (Card.ofLine (line + 1) text) = 1) ↔
    (options.skipBlank = true → ∀ text : Text, text ∈ Lines.all '\n' deck →
      text.dropFinalReturn[5]? = some '0' → text.Marked) := by
  constructor
  · intro all skip text member zero
    obtain ⟨line, there⟩ := List.mem_iff_getElem?.mp member
    apply Classical.byContradiction
    intro bare
    have one := all line text there (Text.punched_iff.mpr (Or.inr zero))
    rw [(holders_ofLine plain partition there).2 ⟨skip, bare⟩] at one
    cases one
  · intro marked line text there punched
    apply (holders_ofLine plain partition there).1
    cases skip : options.skipBlank with
    | false => exact Or.inl rfl
    | true =>
      right
      rcases Text.punched_iff.mp punched with told | zero
      · exact told
      · exact marked skip text (List.mem_of_getElem? there) zero

end Kept

/--
Only cards are left out that have nothing but white space on them, or a zero for a marker besides.
So, unless the limit overflows, a line of the text is in one statement if something is marked on it
or blank cards are not skipped, and in none otherwise. All that is punched is kept, whether or not
blank cards are skipped, just where no line has a zero for a marker and nothing else.
-/
theorem run_punched {options : Options} (plain : options.comments = false) (deck : Text) :
    (∀ card : Card, options.ignores card = true ↔ options.skipBlank = true ∧ card.label = [] ∧
      (isWhite card.marker = true ∨ card.marker = '0') ∧ ∀ c ∈ card.body, isWhite c = true) ∧
    (((ofText options deck).run.fault = some .limitOverflow ∧
        options.Overflows ((Card.ofText deck).map .ok)) ∨
      ∃ statements : List Statement,
        (ofText options deck).run = { results := statements.map .ok } ∧
        (∀ line text, (Lines.all '\n' deck)[line]? = some text →
          (options.skipBlank = false ∨ text.Marked →
            holders statements (Card.ofLine (line + 1) text) = 1) ∧
          (options.skipBlank = true ∧ ¬ text.Marked →
            holders statements (Card.ofLine (line + 1) text) = 0)) ∧
        ((∀ line text, (Lines.all '\n' deck)[line]? = some text → text.Punched →
            holders statements (Card.ofLine (line + 1) text) = 1) ↔
          (options.skipBlank = true → ∀ text : Text, text ∈ Lines.all '\n' deck →
            text.dropFinalReturn[5]? = some '0' → text.Marked))) := by
  constructor
  · intro card
    rw [Options.ignores_iff plain, Card.isBlank_iff]
  · rcases run_ofText_cases options deck with overflow | ⟨statements, run, partition⟩
    · exact Or.inl overflow
    · right
      refine ⟨statements, run, ?_, holders_punched_iff plain partition⟩
      intro line text there
      exact holders_ofLine plain partition there

/-- A statement, a card that only says where the next one begins, and a continuation. -/
def boundaryText : Text := "      X = 1\n     0\n     1 + 2\n".toList

theorem run_punched_boundary :
    ∃ statements : List Statement,
      (ofText { skipBlank := true } boundaryText).run = { results := statements.map .ok } ∧
      holders statements (Card.ofLine 1 "      X = 1".toList) = 1 ∧
      holders statements (Card.ofLine 2 "     0".toList) = 0 ∧
      holders statements (Card.ofLine 3 "     1 + 2".toList) = 1 := by
  have lines : Lines.all '\n' boundaryText =
      ["      X = 1".toList, "     0".toList, "     1 + 2".toList] := by
    decide
  obtain ⟨-, ⟨-, limit, -⟩ | ⟨statements, run, counts, -⟩⟩ :=
    run_punched (rfl : ({ skipBlank := true } : Options).comments = false) boundaryText
  · cases limit
  · rw [lines] at counts
    refine ⟨statements, run, (counts 0 _ rfl).1 (Or.inr ?_), (counts 1 _ rfl).2 ⟨rfl, ?_⟩,
      (counts 2 _ rfl).1 (Or.inr ?_)⟩
    · exact ⟨6, 'X', by decide⟩
    · rw [← Card.isBlank_ofLine_iff 2]
      decide
    · exact ⟨5, '1', by decide⟩

def zeroText : Text := "     0\n".toList

/-- Where blank cards are skipped, the zero is in no statement. -/
theorem run_punched_zero :
    ¬ ∀ statements : List Statement,
      (ofText { skipBlank := true } zeroText).run = { results := statements.map .ok } →
      ∀ line text, (Lines.all '\n' zeroText)[line]? = some text → text.Punched →
        holders statements (Card.ofLine (line + 1) text) = 1 := by
  intro all
  have nothing : nextItems { skipBlank := true } ((Card.ofText zeroText).map .ok) = .ok none := rfl
  have run := (run_ofText { skipBlank := true } zeroText).trans (runItems_of_none nothing)
  have punched : Text.Punched "     0".toList := ⟨5, '0', by decide⟩
  have one := all [] run 0 "     0".toList (by decide) punched
  cases one

end Statements

end CardDeck
