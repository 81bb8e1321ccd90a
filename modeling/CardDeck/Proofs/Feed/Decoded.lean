import CardDeck.Proofs.Feed.Lines
import CardDeck.Proofs.Feed.Reading

set_option autoImplicit false

namespace CardDeck

namespace Reader

variable {encoding : Encoding}

theorem itemsFrom_nil (line : Nat) : itemsFrom encoding line ⟨[], none⟩ = [] :=
  itemsFrom_of_exhausted rfl

theorem itemsFrom_of_decode_ok {bytes : List UInt8} {text : Text}
    (decoded : encoding.decode bytes = .ok text) (line : Nat) :
    itemsFrom encoding line ⟨bytes, none⟩ =
      (Card.ofLines (line + 1) (Lines.all '\n' text)).map .ok := by
  induction bytes using Lines.line_induction newline generalizing text line with
  | last bytes plain =>
    rw [Lines.all_of_plain (Encoding.plain_of_decode decoded plain)]
    have read := Source.nextLine_last plain none
    by_cases empty : bytes = []
    · subst empty
      rw [Encoding.decode_nil] at decoded
      rw [← Except.ok.inj decoded, itemsFrom_nil]
      rfl
    · have present : text ≠ [] := by
        rintro rfl
        exact empty (Encoding.encode_of_decode decoded).2.symm
      dsimp only at read
      rw [if_neg empty] at read
      rw [itemsFrom_of_complete read, decoded, if_neg present]
      dsimp only
      rw [itemsFrom_nil]
      rfl
  | next bytes rest plain ih =>
    cases front : encoding.decode bytes with
    | error offset =>
      rw [Encoding.decode_append_low_error front (by decide)] at decoded
      cases decoded
    | ok first =>
      rw [Encoding.decode_line front] at decoded
      obtain ⟨later, further, rfl⟩ := Encoding.behind_eq_ok decoded
      rw [itemsFrom_of_complete (Source.nextLine_next plain rest none), front, List.append_assoc,
        List.singleton_append, Lines.all_next (Encoding.plain_of_decode front plain)]
      dsimp only
      rw [ih further]
      rfl

/--
The bytes encode nothing from the offset on. The items are then the cards of the lines that were
ended before it, and the error of the line there, counted from its start.
-/
def BrokenAt (encoding : Encoding) (line : Nat) (bytes : List UInt8) (offset : Nat)
    (items : List Item) : Prop :=
  ∃ text, encoding.decode (bytes.take offset) = .ok text ∧
    (Lines.ended newline (bytes.take offset)).map encoding.decode =
      (Lines.ended '\n' text).map .ok ∧
    items = (Card.ofLines (line + 1) (Lines.ended '\n' text)).map .ok ++
      [.error (.decode (line + 1 + (bytes.take offset).count newline) encoding
        (offset - Lines.tailStart newline (bytes.take offset)))]

theorem brokenAt_first {line : Nat} {first bytes : List UInt8} {offset : Nat}
    (failed : encoding.decode first = .error offset) (plain : newline ∉ first)
    (front : bytes.take offset = first.take offset) :
    BrokenAt encoding line bytes offset [.error (.decode (line + 1) encoding offset)] := by
  obtain ⟨-, text, decoded⟩ := Encoding.decode_take failed
  have short : newline ∉ first.take offset := fun member => plain (List.mem_of_mem_take member)
  rw [BrokenAt, front]
  refine ⟨text, decoded, ?_, ?_⟩
  · rw [Lines.ended_of_plain short, Lines.ended_of_plain (Encoding.plain_of_decode decoded short)]
    rfl
  · rw [Lines.ended_of_plain (Encoding.plain_of_decode decoded short),
      Lines.tailStart_of_plain short, List.count_eq_zero.mpr short]
    rfl

/-- A first line that is decoded shifts the place where the rest is broken. -/
theorem brokenAt_next {line : Nat} {first rest : List UInt8} {text : Text} {offset : Nat}
    {items : List Item} (decoded : encoding.decode first = .ok text) (plain : newline ∉ first)
    (broken : BrokenAt encoding (line + 1) rest offset items) :
    BrokenAt encoding line (first ++ newline :: rest) (first.length + 1 + offset)
      (.ok (Card.ofLine (line + 1) text) :: items) := by
  obtain ⟨later, further, lines, rfl⟩ := broken
  have front : (first ++ newline :: rest).take (first.length + 1 + offset) =
      first ++ newline :: rest.take offset := by
    rw [Nat.add_assoc, List.take_length_add_append, Nat.add_comm 1 offset, List.take_succ_cons]
  have plain' := Encoding.plain_of_decode decoded plain
  have count : (first ++ newline :: rest.take offset).count newline =
      (rest.take offset).count newline + 1 := by
    rw [List.count_append, List.count_eq_zero.mpr plain, List.count_cons_self, Nat.zero_add]
  rw [BrokenAt, front]
  refine ⟨text ++ '\n' :: later, ?_, ?_, ?_⟩
  · rw [Encoding.decode_line decoded, further, Encoding.behind_ok, List.append_assoc]
    rfl
  · rw [Lines.ended_next plain, Lines.ended_next plain', List.map_cons, decoded, lines,
      List.map_cons]
  · rw [Lines.ended_next plain', Lines.tailStart_next plain, count]
    have lineNumber : line + 1 + 1 + (rest.take offset).count newline =
        line + 1 + ((rest.take offset).count newline + 1) := by omega
    rw [lineNumber, Nat.add_sub_add_left]
    rfl

/-- Where the whole is not decoded, neither is the line there, and the lines before it are. -/
theorem itemsFrom_of_decode_error {bytes : List UInt8} {offset : Nat}
    (failed : encoding.decode bytes = .error offset) (line : Nat) :
    BrokenAt encoding line bytes offset (itemsFrom encoding line ⟨bytes, none⟩) := by
  induction bytes using Lines.line_induction newline generalizing offset line with
  | last bytes plain =>
    have read := Source.nextLine_last plain none
    have present : bytes ≠ [] := by
      rintro rfl
      rw [Encoding.decode_nil] at failed
      cases failed
    dsimp only at read
    rw [if_neg present] at read
    rw [itemsFrom_of_complete read, failed]
    exact brokenAt_first failed plain rfl
  | next bytes rest plain ih =>
    rw [itemsFrom_of_complete (Source.nextLine_next plain rest none)]
    cases front : encoding.decode bytes with
    | error early =>
      rw [Encoding.decode_append_low_error front (by decide)] at failed
      obtain rfl := Except.error.inj failed
      apply brokenAt_first front plain
      exact List.take_append_of_le_length (Nat.le_of_lt (Encoding.decode_take front).1)
    | ok text =>
      rw [Encoding.decode_line front] at failed
      obtain ⟨later, further, rfl⟩ := Encoding.behind_eq_error failed
      exact brokenAt_next front plain (ih further (line + 1))

end Reader

/--
Bytes that are decoded as a whole are read as the cards of the lines of the text. Bytes that are not
are read up to the line where decoding fails, and then comes the error. Calls give these items one
by one, and nothing from the end on.
-/
theorem Feed.items_of_bytes (encoding : Encoding) (bytes : List UInt8) :
    (match encoding.decode bytes with
      | .ok text =>
        (ofSource encoding { bytes }).items = (Card.ofLines 1 (Lines.all '\n' text)).map .ok
      | .error offset =>
        ∃ text, encoding.decode (bytes.take offset) = .ok text ∧
          (Lines.ended newline (bytes.take offset)).map encoding.decode =
            (Lines.ended '\n' text).map .ok ∧
          (ofSource encoding { bytes }).items =
            (Card.ofLines 1 (Lines.ended '\n' text)).map .ok ++
              [.error (.decode (1 + (bytes.take offset).count newline) encoding
                (offset - Lines.tailStart newline (bytes.take offset)))]) ∧
    ∀ calls, (({ feed := ofSource encoding { bytes } } : Lookahead).performAll
        (List.replicate calls .next)).map Performed.answer =
      (List.range calls).map fun call => .item (ofSource encoding { bytes }).items[call]? := by
  constructor
  · cases decoded : encoding.decode bytes with
    | ok text => exact Reader.itemsFrom_of_decode_ok decoded 0
    | error offset =>
      have broken := Reader.itemsFrom_of_decode_error decoded 0
      rw [Reader.BrokenAt, Nat.zero_add] at broken
      exact broken
  · exact Lookahead.answers_next _

/-- The cards of a text, one for each of its lines. -/
def Card.ofText (text : Text) : List Card := Card.ofLines 1 (Lines.all '\n' text)

/-- A text is read without an error. -/
theorem Feed.items_ofText (text : Text) : (ofText text).items = (Card.ofText text).map .ok :=
  have has : ∀ c ∈ text, Encoding.utf8.Has c := fun _ _ => trivial
  Reader.itemsFrom_of_decode_ok (Encoding.decode_encode has) 0

theorem Card.ofText_ascending (text : Text) : Ascending (ofText text) := by
  have lines := (Reader.ascending
    { encoding := .utf8, source := { bytes := Encoding.utf8.encode text } }).1
  have items := Feed.items_ofText text
  rw [Feed.ofText] at items
  rw [items, cardsOf_map_ok] at lines
  exact lines

end CardDeck
