import CardDeck.Proofs.Text.Cut
import CardDeck.Proofs.Token.Slice
import Mathlib.Data.List.GetD

set_option autoImplicit false

namespace CardDeck

/-- The columns of a text from one to another, both counted from one. -/
def Text.between (text : Text) (first last : Nat) : Text :=
  (text.drop (first - 1)).take (last + 1 - first)

theorem Text.take_drop_rightpad {start width total : Nat} (inside : start + width ≤ total)
    (text : Text) :
    ((text.rightpad total ' ').drop start).take width =
      ((text.drop start).take width).rightpad width ' ' := by
  simp only [List.rightpad, List.drop_append, List.take_append, List.drop_replicate,
    List.take_replicate, List.length_drop, List.length_take]
  congr 2
  omega

theorem Text.between_concat {text : Text} {first last : Nat} (start : 0 < first)
    (within : last ≤ text.length) (c : Char) :
    Text.between (text ++ [c]) first last = text.between first last := by
  unfold between
  rw [List.drop_append, List.take_append_of_le_length]
  rw [List.length_drop]
  omega

namespace Card

/-- All columns of the card of a line. -/
def image (text : Text) : Text := (columns text).rightpad cardWidth ' '

@[simp] theorem image_length (text : Text) : (image text).length = cardWidth := by
  have reach : (columns text).length ≤ cardWidth := List.length_take_le _ _
  simp only [image, List.rightpad, List.length_append, List.length_replicate]
  omega

theorem image_between (text : Text) {first last : Nat} (start : 0 < first) (order : first ≤ last)
    (inside : last ≤ cardWidth) :
    (image text).between first last =
      ((columns text).between first last).rightpad (last + 1 - first) ' ' := by
  apply Text.take_drop_rightpad
  omega

/-- The fields of the card are the columns of the image, trimmed as each of them is. -/
structure Shows (card : Card) (image : Text) : Prop where
  firstColumn : image.between 1 1 = [card.firstColumn]
  label : card.label = Text.trim (image.between 1 5)
  marker : image.between 6 6 = [card.marker]
  body : card.body = image.between bodyColumn (trailerColumn - 1)
  trailer : card.trailer = Text.trimEnd (image.between trailerColumn cardWidth)

theorem rightpad_one (text : Text) (column : Nat) :
    ((text.drop column).take 1).rightpad 1 ' ' = [text.getD column ' '] := by
  by_cases there : column < text.length
  · have front : (text.drop column).take 1 = [text[column]] := by
      rw [List.drop_eq_getElem_cons there]
      rfl
    rw [front, List.getD_eq_getElem _ _ there]
    rfl
  · simp [List.rightpad, List.drop_of_length_le (Nat.le_of_not_lt there), Nat.le_of_not_lt there]

theorem ofLine_shows (line : Nat) (text : Text) : (ofLine line text).Shows (image text) := by
  have left : ((columns text).drop 72).take 8 = (columns text).drop 72 := by
    apply List.take_of_length_le
    rw [List.length_drop]
    have reach : (columns text).length ≤ cardWidth := List.length_take_le _ _
    simp only [cardWidth] at reach
    omega
  constructor
  · rw [image_between text (by decide) (by decide) (by decide)]
    have first : (ofLine line text).firstColumn = (columns text).getD 0 ' ' := by
      show (columns text).headD ' ' = _
      cases columns text <;> rfl
    rw [first]
    exact rightpad_one _ 0
  · rw [image_between text (by decide) (by decide) (by decide), Text.trim_rightpad]
    rfl
  · rw [image_between text (by decide) (by decide) (by decide)]
    exact rightpad_one _ 5
  · rw [image_between text (by decide) (by decide) (by decide)]
    rfl
  · rw [image_between text (by decide) (by decide) (by decide), Text.trimEnd_rightpad]
    show Text.trimEnd ((columns text).drop 72) = Text.trimEnd (((columns text).drop 72).take 8)
    rw [left]

namespace Shows

variable {card : Card} {image : Text}

/-- A card is told from its line and from its image. -/
theorem unique {other : Card} (shows : card.Shows image) (same : other.Shows image)
    (line : card.line = other.line) : card = other := by
  have first := List.singleton_inj.mp (shows.firstColumn.symm.trans same.firstColumn)
  have marker := List.singleton_inj.mp (shows.marker.symm.trans same.marker)
  have label := shows.label.trans same.label.symm
  have body := shows.body.trans same.body.symm
  have trailer := shows.trailer.trans same.trailer.symm
  cases card
  cases other
  simp only [Card.mk.injEq]
  exact ⟨line, label, marker, body, trailer, first⟩

theorem last_white {front : Text} {c d : Char} (whole : front.length + 1 = cardWidth)
    (white : isWhite c = true) (white' : isWhite d = true) (shows : card.Shows (front ++ [c])) :
    card.Shows (front ++ [d]) := by
  have width : front.length = 79 := by
    simp only [cardWidth] at whole
    omega
  have same : ∀ {first last}, 0 < first → last ≤ 79 →
      Text.between (front ++ [d]) first last = Text.between (front ++ [c]) first last := by
    intro first last start within
    rw [Text.between_concat start (by omega), Text.between_concat start (by omega)]
  have trailer : ∀ {e}, isWhite e = true →
      Text.trimEnd (Text.between (front ++ [e]) trailerColumn cardWidth) =
        Text.trimEnd (front.drop 72) := by
    intro e blank
    have cut : Text.between (front ++ [e]) trailerColumn cardWidth = front.drop 72 ++ [e] := by
      show ((front ++ [e]).drop 72).take 8 = _
      rw [List.drop_append_of_le_length (by omega), List.take_of_length_le]
      simp [width]
    rw [cut]
    apply Text.trimEnd_append_white
    intro character member
    rw [List.mem_singleton.mp member]
    exact blank
  constructor
  · rw [same (by decide) (by decide)]
    exact shows.firstColumn
  · rw [same (by decide) (by decide)]
    exact shows.label
  · rw [same (by decide) (by decide)]
    exact shows.marker
  · rw [same (by decide) (by decide)]
    exact shows.body
  · rw [trailer white']
    exact shows.trailer.trans (trailer white)

end Shows

theorem image_append_blanks {text : Text} (plain : text.getLast? ≠ some '\r') (count : Nat) :
    image (text ++ List.replicate count ' ') = image text := by
  have still : (text ++ List.replicate count ' ').getLast? ≠ some '\r' := by
    cases count with
    | zero => simpa using plain
    | succ count =>
      rw [List.replicate_succ', ← List.append_assoc, List.getLast?_concat]
      decide
  simp only [image, columns, Text.dropFinalReturn_of_ne _ plain, Text.dropFinalReturn_of_ne _ still,
    List.rightpad, List.take_append, List.take_replicate, List.append_assoc,
    List.replicate_append_replicate, List.length_append, List.length_take, List.length_replicate]
  congr 2
  omega

/-- A line that reaches the last column shows its own columns, also if it ends there in a return. -/
theorem ofLine_shows_take {text : Text} (reach : cardWidth ≤ text.length) (line : Nat) :
    (ofLine line text).Shows (text.take cardWidth) := by
  have shows := ofLine_shows line text
  have full : ∀ whole : Text, cardWidth ≤ whole.length →
      (whole.take cardWidth).rightpad cardWidth ' ' = whole.take cardWidth := by
    intro whole long
    simp [List.rightpad, long]
  by_cases return' : text.getLast? = some '\r'
  · obtain ⟨front, rfl⟩ := List.getLast?_eq_some_iff.mp return'
    have image : image (front ++ ['\r']) = (front.take cardWidth).rightpad cardWidth ' ' := by
      rw [image, columns, Text.dropFinalReturn_concat]
    rw [List.length_append, List.length_singleton] at reach
    by_cases beyond : cardWidth ≤ front.length
    · rw [image, full front beyond] at shows
      rwa [List.take_append_of_le_length beyond]
    · have edge : front.length + 1 = cardWidth := by omega
      have padded : (front.take cardWidth).rightpad cardWidth ' ' = front ++ [' '] := by
        rw [List.take_of_length_le (by omega), List.rightpad, ← edge, Nat.add_sub_cancel_left]
        rfl
      rw [image, padded] at shows
      rw [List.take_of_length_le (by simp [edge])]
      exact shows.last_white edge isWhite_space (by decide)
  · rw [image, columns, Text.dropFinalReturn_of_ne _ return', full text reach] at shows
    exact shows

/--
The card of a line has the fields that its image has, whose columns are the first 80 characters
without a carriage return that ends the line, padded with blanks. The body is cut out of the columns
that there are, and is never longer than the field it is padded to. Blanks behind a line change
nothing unless it ends in a carriage return, and nothing does that stands behind the last column,
even if a carriage return there ends one of two lines.
-/
theorem ofLine_image (line : Nat) (text : Text) :
    (image text = (text.dropFinalReturn.take cardWidth).rightpad cardWidth ' ' ∧
      (image text).length = cardWidth) ∧
    ((ofLine line text).line = line ∧ (ofLine line text).Shows (image text) ∧
      (ofLine line text).body.length = bodyWidth ∧
      ((ofLine line text).isComment = true ↔
        ∃ c ∈ ['C', 'c', '*'], (image text).between 1 1 = [c])) ∧
    Padded line text ∧
    (text.getLast? ≠ some '\r' → ∀ count,
      ofLine line (text ++ List.replicate count ' ') = ofLine line text) ∧
    ∀ other : Text, cardWidth ≤ text.length → cardWidth ≤ other.length →
      other.take cardWidth = text.take cardWidth → ofLine line other = ofLine line text := by
  have shows := ofLine_shows line text
  refine ⟨⟨rfl, image_length text⟩, ⟨rfl, shows, (ofLine line text).body_length, ?_⟩,
    ofLine_padded line text, ?_, ?_⟩
  · simp only [shows.firstColumn, isComment, Bool.or_eq_true, beq_iff_eq, List.cons.injEq,
      and_true, exists_eq_right', List.mem_cons, List.not_mem_nil, or_false, or_assoc]
  · intro plain count
    have more := ofLine_shows line (text ++ List.replicate count ' ')
    rw [image_append_blanks plain] at more
    exact more.unique shows rfl
  · intro other reach reach' same
    have there := ofLine_shows_take reach' line
    rw [same] at there
    exact there.unique (ofLine_shows_take reach line) rfl

def edgeLine : Text :=
  "C É  1".toList ++ List.replicate 66 '-' ++ "SEQ 001\r".toList

/-- The carriage return counts for nothing, whether it ends the line or is its last column. -/
theorem ofLine_image_edge :
    ofLine 1 (edgeLine ++ "0".toList) = ofLine 1 edgeLine ∧
      ofLine 1 ("      É".toList ++ List.replicate 99 ' ') = ofLine 1 "      É".toList := by
  obtain ⟨-, -, -, -, same⟩ := ofLine_image 1 edgeLine
  obtain ⟨-, -, -, padded, -⟩ := ofLine_image 1 "      É".toList
  refine ⟨same _ (by decide) (by decide) (by decide), padded (by decide) 99⟩

end Card

end CardDeck
