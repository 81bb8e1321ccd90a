import CardDeck.Feed.Operation
import CardDeck.Proofs.Encoding.Ascii
import CardDeck.Proofs.Statement.Items
import CardDeck.Proofs.Text.Lines

set_option autoImplicit false

namespace CardDeck

namespace Source

theorem ne_newline_of_plain {line : List UInt8} (plain : newline ∉ line) :
    ∀ byte ∈ line, (byte != newline) = true := by
  intro byte member
  exact bne_iff_ne.mpr fun same => plain (same ▸ member)

theorem nextLine_next {line : List UInt8} (plain : newline ∉ line) (rest : List UInt8)
    (failure : Option Text) :
    nextLine ⟨line ++ newline :: rest, failure⟩ = .complete line ⟨rest, failure⟩ := by
  have others := ne_newline_of_plain plain
  simp only [nextLine, List.takeWhile_append_of_pos others, List.dropWhile_append_of_pos others,
    List.takeWhile_cons, List.dropWhile_cons, bne_self_eq_false, Bool.false_eq_true, ↓reduceIte,
    List.append_nil]

theorem nextLine_last {line : List UInt8} (plain : newline ∉ line) (failure : Option Text) :
    nextLine ⟨line, failure⟩ =
      match failure with
      | some reason => .failed reason
      | none => if line = [] then .exhausted else .complete line ⟨[], none⟩ := by
  have others := ne_newline_of_plain plain
  have front : (line ++ []).takeWhile (· != newline) = line ++ [] :=
    List.takeWhile_append_of_pos others
  have back : (line ++ []).dropWhile (· != newline) = [] := List.dropWhile_append_of_pos others
  rw [List.append_nil] at front back
  simp only [nextLine, front, back]
  cases failure with
  | some reason => rfl
  | none => cases line <;> rfl

end Source

/-- The cards of lines that are numbered from the given line on. -/
def Card.ofLines (line : Nat) (texts : List Text) : List Card :=
  (texts.zipIdx line).map fun (text, line) => Card.ofLine line text

@[simp] theorem Card.ofLines_cons (line : Nat) (text : Text) (texts : List Text) :
    Card.ofLines line (text :: texts) =
      Card.ofLine line text :: Card.ofLines (line + 1) texts := rfl

namespace Reader

/-- The items of a reader that has read so many lines before the source. -/
def itemsFrom (encoding : Encoding) (line : Nat) (source : Source) : List Item :=
  (Feed.reading { encoding, source, line }).items

theorem items_of_finished {reader : Reader} (finished : reader.finished = true) :
    (Feed.reading reader).items = [] := by
  apply Feed.items_of_next_none
  rw [Feed.next, next, if_pos finished]
  rfl

variable {encoding : Encoding} {line : Nat} {source : Source}

theorem itemsFrom_of_exhausted (read : source.nextLine = .exhausted) :
    itemsFrom encoding line source = [] := by
  apply Feed.items_of_next_none
  simp [Feed.next, next, read]

theorem itemsFrom_of_failed {reason : Text} (read : source.nextLine = .failed reason) :
    itemsFrom encoding line source = [.error (.read (line + 1) reason)] := by
  have taken : (Feed.reading { encoding, source, line }).next =
      some (.error (.read (line + 1) reason),
        .reading ⟨encoding, { source with bytes := [] }, line, true⟩) := by
    simp [Feed.next, next, read]
  rw [itemsFrom, Feed.items_of_next_some taken, items_of_finished rfl]

theorem itemsFrom_of_complete {bytes : List UInt8} {rest : Source}
    (read : source.nextLine = .complete bytes rest) :
    itemsFrom encoding line source =
      match encoding.decode bytes with
      | .ok text => .ok (Card.ofLine (line + 1) text) :: itemsFrom encoding (line + 1) rest
      | .error offset => [.error (.decode (line + 1) encoding offset)] := by
  cases decoded : encoding.decode bytes with
  | ok text =>
    have taken : (Feed.reading { encoding, source, line }).next =
        some (.ok (Card.ofLine (line + 1) text), .reading ⟨encoding, rest, line + 1, false⟩) := by
      simp [Feed.next, next, read, decoded]
    rw [itemsFrom, Feed.items_of_next_some taken]
    rfl
  | error offset =>
    have taken : (Feed.reading { encoding, source, line }).next =
        some (.error (.decode (line + 1) encoding offset),
          .reading ⟨encoding, rest, line + 1, true⟩) := by
      simp [Feed.next, next, read, decoded]
    rw [itemsFrom, Feed.items_of_next_some taken, items_of_finished rfl]

/-- The items of lines up to one that is not decoded, and other items behind them. -/
def itemsOfLines (encoding : Encoding) (line : Nat) (rest : List Item) :
    List (List UInt8) → List Item
  | [] => rest
  | bytes :: lines =>
    match encoding.decode bytes with
    | .ok text => .ok (Card.ofLine (line + 1) text) :: itemsOfLines encoding (line + 1) rest lines
    | .error offset => [.error (.decode (line + 1) encoding offset)]

/-- The lines that a source ends come first, and then what is behind them. -/
theorem itemsFrom_append (encoding : Encoding) (line : Nat) (front back : List UInt8)
    (failure : Option Text) :
    itemsFrom encoding line ⟨front ++ back, failure⟩ =
      itemsOfLines encoding line
        (itemsFrom encoding (line + front.count newline)
          ⟨Lines.tail newline front ++ back, failure⟩)
        (Lines.ended newline front) := by
  induction front using Lines.line_induction newline generalizing line with
  | last bytes plain =>
    rw [Lines.ended_of_plain plain, Lines.tail_of_plain plain, List.count_eq_zero.mpr plain]
    rfl
  | next bytes rest plain ih =>
    have count : (bytes ++ newline :: rest).count newline = rest.count newline + 1 := by
      rw [List.count_append, List.count_eq_zero.mpr plain, List.count_cons_self, Nat.zero_add]
    rw [List.append_assoc, List.cons_append,
      itemsFrom_of_complete (Source.nextLine_next plain _ failure), ih,
      Lines.ended_next plain, Lines.tail_next plain, count, itemsOfLines]
    simp only [Nat.add_assoc, Nat.add_comm 1]

theorem itemsOfLines_cases (encoding : Encoding) (line : Nat) (lines : List (List UInt8)) :
    (∃ texts, lines.map encoding.decode = texts.map .ok ∧
      ∀ rest, itemsOfLines encoding line rest lines =
        (Card.ofLines (line + 1) texts).map .ok ++ rest) ∨
    ∃ before bytes after texts offset, lines = before ++ bytes :: after ∧
      before.map encoding.decode = texts.map .ok ∧ encoding.decode bytes = .error offset ∧
      ∀ rest, itemsOfLines encoding line rest lines =
        (Card.ofLines (line + 1) texts).map .ok ++
          [.error (.decode (line + before.length + 1) encoding offset)] := by
  induction lines generalizing line with
  | nil => exact Or.inl ⟨[], rfl, fun _ => rfl⟩
  | cons bytes lines ih =>
    cases decoded : encoding.decode bytes with
    | error offset =>
      right
      refine ⟨[], bytes, lines, [], offset, rfl, rfl, decoded, ?_⟩
      intro rest
      rw [itemsOfLines, decoded]
      rfl
    | ok text =>
      rcases ih (line + 1) with ⟨texts, same, items⟩ |
        ⟨before, stuck, after, texts, offset, rfl, same, failed, items⟩
      · left
        refine ⟨text :: texts, by rw [List.map_cons, decoded, same, List.map_cons], ?_⟩
        intro rest
        rw [itemsOfLines, decoded, items]
        rfl
      · right
        refine ⟨bytes :: before, stuck, after, text :: texts, offset, rfl, ?_, failed, ?_⟩
        · rw [List.map_cons, decoded, same, List.map_cons]
        · intro rest
          have further : line + 1 + before.length = line + (before.length + 1) := by omega
          rw [itemsOfLines, decoded, items, further]
          rfl

end Reader

namespace Lookahead

theorem item_next (cards : Lookahead) : cards.next.item = cards.items.head? := cards.item_peek

theorem items_next (cards : Lookahead) : cards.next.rest.items = cards.items.tail := by
  cases shown : cards.peek.item with
  | none =>
    have empty := items_of_item_peek_none shown
    have left : cards.next.rest.items <:+ cards.peek.rest.items := List.suffix_append _ _
    rw [items_peek, empty] at left
    rw [empty, List.suffix_nil.mp left]
    rfl
  | some item =>
    rw [items_of_item_peek shown]
    rfl

theorem answers_next (cards : Lookahead) (calls : Nat) :
    (cards.performAll (List.replicate calls .next)).map Performed.answer =
      (List.range calls).map fun call => .item cards.items[call]? := by
  induction calls generalizing cards with
  | zero => rfl
  | succ calls ih =>
    have first : cards.items.head? = cards.items[0]? := List.head?_eq_getElem?
    rw [List.replicate_succ, performAll, List.map_cons, ih, List.range_succ_eq_map, List.map_cons,
      List.map_map]
    simp only [perform, items_next, item_next, first, List.getElem?_tail]
    rfl

end Lookahead

end CardDeck
