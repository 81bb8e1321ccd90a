import CardDeck.Proofs.Feed.Lines
import CardDeck.Proofs.Feed.Reading

set_option autoImplicit false

namespace CardDeck

def Item.line : Item → Nat
  | .ok card => card.line
  | .error error => error.line

namespace Feed

theorem records_next {feed rest : Feed} {item : Item} (taken : feed.next = some (item, rest)) :
    rest.records = feed.records := by
  cases feed with
  | listed items =>
    cases items with
    | nil => cases taken
    | cons first items =>
      cases taken
      rfl
  | reading reader =>
    obtain ⟨read, -, same⟩ := Option.map_eq_some_iff.mp taken
    cases same
    funext item
    cases item <;> rfl

theorem next_eq_none {feed : Feed} (nothing : feed.items = []) : feed.next = none := by
  cases given : feed.next with
  | none => rfl
  | some taken =>
    rw [items_of_next_some given] at nothing
    cases nothing

/-- The items are drawn one after the other, and the rest is left. -/
inductive Draws : Feed → List Item → Feed → Prop where
  | none (feed : Feed) : Draws feed [] feed
  | one {feed next rest : Feed} {item : Item} {items : List Item}
    (taken : feed.next = some (item, next)) (draws : Draws next items rest) :
    Draws feed (item :: items) rest

namespace Draws

variable {feed middle rest : Feed} {items more : List Item}

theorem append (draws : feed.Draws items middle) (further : middle.Draws more rest) :
    feed.Draws (items ++ more) rest := by
  induction draws with
  | none feed => exact further
  | one taken draws ih => exact one taken (ih further)

theorem items_eq (draws : feed.Draws items rest) : feed.items = items ++ rest.items := by
  induction draws with
  | none feed => rfl
  | one taken draws ih =>
    rw [items_of_next_some taken, ih]
    rfl

theorem all (feed : Feed) : ∃ rest, feed.Draws feed.items rest := by
  fun_induction Feed.items feed with
  | case1 feed ended => exact ⟨feed, none feed⟩
  | case2 feed item rest taken ih =>
    obtain ⟨last, draws⟩ := ih
    exact ⟨last, one taken draws⟩

theorem records_eq (draws : feed.Draws items rest) : rest.records = feed.records := by
  induction draws with
  | none feed => rfl
  | one taken draws ih => exact ih.trans (records_next taken)

end Draws

end Feed

/-- What is at the front of a source is its first line, with the newline that ends it. -/
theorem Source.pieces_nextLine (source : Source) :
    match source.nextLine with
    | .complete _ rest =>
      Lines.pieces newline rest.bytes = (Lines.pieces newline source.bytes).drop 1
    | .failed _ => (Lines.pieces newline source.bytes).drop 1 = []
    | .exhausted => source.bytes = [] := by
  obtain ⟨bytes, failure⟩ := source
  induction bytes using Lines.line_induction newline with
  | next line rest plain =>
    rw [nextLine_next plain, Lines.pieces_next plain]
    rfl
  | last line plain =>
    have nothing : Lines.pieces newline ([] : List UInt8) = [] :=
      Lines.pieces_of_plain List.not_mem_nil
    rw [nextLine_last plain, Lines.pieces_of_plain plain]
    cases failure with
    | some reason => by_cases empty : line = [] <;> simp [empty]
    | none => by_cases empty : line = [] <;> simp [empty, nothing]

namespace Reader

/-- A reader takes a line for an item, and gives no item after an error. -/
theorem next_taken {reader rest : Reader} {item : Item} (read : reader.next = some (item, rest)) :
    item.line = reader.line + 1 ∧
      Lines.pieces newline rest.source.bytes =
        (Lines.pieces newline reader.source.bytes).drop 1 ∧
      reader.finished = false ∧
      (((∃ card, item = .ok card) ∧ rest.line = reader.line + 1 ∧ rest.finished = false) ∨
        ((∃ error, item = .error error) ∧ rest.finished = true)) := by
  have front := reader.source.pieces_nextLine
  unfold next at read
  split at read
  · cases read
  · rename_i going
    dsimp only at read
    split at read
    · cases read
    · rename_i reason failed
      rw [failed] at front
      cases read
      refine ⟨rfl, ?_, Bool.eq_false_iff.mpr going, Or.inr ⟨⟨_, rfl⟩, rfl⟩⟩
      rw [front]
      exact Lines.pieces_of_plain List.not_mem_nil
    · rename_i bytes source complete
      rw [complete] at front
      split at read
      · cases read
        have still := Bool.eq_false_iff.mpr going
        exact ⟨rfl, front, still, Or.inl ⟨⟨_, rfl⟩, rfl, still⟩⟩
      · cases read
        exact ⟨rfl, front, Bool.eq_false_iff.mpr going, Or.inr ⟨⟨_, rfl⟩, rfl⟩⟩

/-- What a reader comes to when the items are drawn from it. -/
structure Drew (reader left : Reader) (items : List Item) : Prop where
  pieces : Lines.pieces newline left.source.bytes =
    (Lines.pieces newline reader.source.bytes).drop items.length
  lines : items.map Item.line = List.range' (reader.line + 1) items.length
  going : Clean items → left.finished = reader.finished
  ended : ∀ passed error, items = passed ++ [.error error] → left.finished = true

theorem next_of_finished {reader : Reader} (finished : reader.finished = true) :
    reader.next = none := by
  rw [next, if_pos finished]

theorem drew_of_draws {reader : Reader} {items : List Item} {rest : Feed}
    (draws : (Feed.reading reader).Draws items rest) :
    ∃ left, rest = .reading left ∧ reader.Drew left items := by
  induction items generalizing reader with
  | nil =>
    cases draws
    refine ⟨reader, rfl, rfl, rfl, fun _ => rfl, ?_⟩
    intro passed error same
    have length := congrArg List.length same
    simp at length
  | cons item items ih =>
    cases draws with
    | one taken draws =>
      obtain ⟨⟨first, next⟩, read, same⟩ := Option.map_eq_some_iff.mp taken
      cases same
      obtain ⟨left, rfl, drew⟩ := ih draws
      obtain ⟨line, pieces, going, outcome⟩ := next_taken read
      have behind : Lines.pieces newline left.source.bytes =
          (Lines.pieces newline reader.source.bytes).drop (items.length + 1) := by
        rw [drew.pieces, pieces, List.drop_drop, Nat.add_comm]
      refine ⟨left, rfl, ?_⟩
      rcases outcome with ⟨⟨card, rfl⟩, further, open'⟩ | ⟨⟨error, rfl⟩, finished⟩
      · refine ⟨behind, ?_, ?_, ?_⟩
        · rw [List.map_cons, line, drew.lines, further, List.length_cons, List.range'_succ]
        · intro clean
          rw [drew.going (clean.suffix (List.suffix_cons _ _)), open', going]
        · intro passed error same
          cases passed with
          | nil => cases same
          | cons other passed => exact drew.ended passed error (List.cons.inj same).2
      -- nothing is drawn behind an error
      · have none : items = [] := by
          cases draws with
          | none feed => rfl
          | one again draws =>
            rw [Feed.next, next_of_finished finished] at again
            cases again
        subst none
        refine ⟨behind, ?_, ?_, ?_⟩
        · rw [List.map_cons, line]
          rfl
        · intro clean
          exact absurd rfl clean.ne_error
        · intro passed error same
          rw [drew.going (Clean.nil), finished]

namespace Drew

variable {reader left : Reader} {items : List Item}

theorem bytes (drew : reader.Drew left items) :
    reader.source.bytes =
      ((Lines.pieces newline reader.source.bytes).take items.length).flatten ++
        left.source.bytes := by
  have rest := Lines.flatten_pieces newline left.source.bytes
  rw [drew.pieces] at rest
  rw [← rest, ← List.flatten_append, List.take_append_drop, Lines.flatten_pieces]

theorem line_of_last {passed : List Item} {item : Item} (drew : reader.Drew left items)
    (last : items = passed ++ [item]) : item.line = reader.line + items.length := by
  have lines := drew.lines
  rw [last, List.map_append, List.length_append, List.length_singleton,
    List.range'_1_concat] at lines
  have here := (List.append_inj lines (by rw [List.length_map, List.length_range'])).2
  rw [last, List.length_append, List.length_singleton, (List.cons.inj here).1]
  omega

end Drew

theorem lines_items (reader : Reader) :
    (Feed.reading reader).items.map Item.line =
      List.range' (reader.line + 1) (Feed.reading reader).items.length := by
  obtain ⟨rest, draws⟩ := Feed.Draws.all (.reading reader)
  obtain ⟨left, -, drew⟩ := drew_of_draws draws
  exact drew.lines

/-- A reader that has no item left has taken all bytes, unless an error ended it. -/
theorem bytes_of_items_nil {reader : Reader} (going : reader.finished = false)
    (nothing : (Feed.reading reader).items = []) : reader.source.bytes = [] := by
  have ended : reader.next = none := Option.map_eq_none_iff.mp (Feed.next_eq_none nothing)
  have front := reader.source.pieces_nextLine
  rw [next, going, if_neg Bool.false_ne_true] at ended
  dsimp only at ended
  split at ended
  · rename_i exhausted
    rw [exhausted] at front
    exact front
  · cases ended
  · split at ended <;> cases ended

end Reader

/-- The lines that are read; a source that fails has only those that were ended before. -/
def Source.lines (source : Source) : List (List UInt8) :=
  match source.failure with
  | none => Lines.all newline source.bytes
  | some _ => Lines.ended newline source.bytes

/-- The texts of the lines up to the first one that is not decoded. -/
def Encoding.texts (encoding : Encoding) : List (List UInt8) → List Text
  | [] => []
  | line :: lines =>
    match encoding.decode line with
    | .ok text => text :: encoding.texts lines
    | .error _ => []

/-- The cards of a source, one for each line up to the first one that is not decoded. -/
def Source.cards (encoding : Encoding) (source : Source) : List Card :=
  Card.ofLines 1 (encoding.texts source.lines)

theorem Reader.cardsOf_itemsFrom (encoding : Encoding) (line : Nat) (source : Source) :
    cardsOf (itemsFrom encoding line source) =
      Card.ofLines (line + 1) (encoding.texts source.lines) := by
  obtain ⟨bytes, failure⟩ := source
  induction bytes using Lines.line_induction newline generalizing line with
  | next front rest plain ih =>
    have lines : Source.lines ⟨front ++ newline :: rest, failure⟩ =
        front :: Source.lines ⟨rest, failure⟩ := by
      cases failure with
      | none => exact Lines.all_next plain rest
      | some reason => exact Lines.ended_next plain rest
    rw [itemsFrom_of_complete (Source.nextLine_next plain rest failure), lines, Encoding.texts]
    cases encoding.decode front with
    | error offset => rfl
    | ok text => exact congrArg (Card.ofLine (line + 1) text :: ·) (ih (line + 1))
  | last front plain =>
    have read := Source.nextLine_last plain failure
    cases failure with
    | some reason =>
      have lines : Source.lines ⟨front, some reason⟩ = [] := Lines.ended_of_plain plain
      rw [itemsFrom_of_failed read, lines]
      rfl
    | none =>
      have lines : Source.lines ⟨front, none⟩ = if front = [] then [] else [front] :=
        Lines.all_of_plain plain
      rw [lines]
      by_cases empty : front = []
      · dsimp only at read
        rw [if_pos empty] at read
        rw [itemsFrom_of_exhausted read, if_pos empty]
        rfl
      · dsimp only at read
        rw [if_neg empty] at read
        rw [itemsFrom_of_complete read, if_neg empty, Encoding.texts]
        cases encoding.decode front with
        | error offset => rfl
        | ok text =>
          have nothing : itemsFrom encoding (line + 1) ⟨[], none⟩ = [] :=
            itemsFrom_of_exhausted rfl
          dsimp only
          rw [nothing]
          rfl

theorem Source.cardsOf_items (encoding : Encoding) (source : Source) :
    cardsOf (Feed.ofSource encoding source).items = source.cards encoding :=
  Reader.cardsOf_itemsFrom encoding 0 source

/-- The cards of a source are numbered one after the other. -/
theorem Source.lines_cards (encoding : Encoding) (source : Source) :
    (source.cards encoding).map Card.line = List.range' 1 (source.cards encoding).length := by
  have numbered : ∀ (texts : List Text) (line : Nat),
      (Card.ofLines line texts).map Card.line =
        List.range' line (Card.ofLines line texts).length := by
    intro texts
    induction texts with
    | nil =>
      intro line
      rfl
    | cons text texts ih =>
      intro line
      rw [Card.ofLines_cons, List.map_cons, ih (line + 1), List.length_cons, List.range'_succ,
        Card.ofLine_line]
  exact numbered _ 1

end CardDeck
