import CardDeck.Proofs.Feed.Reading

set_option autoImplicit false

namespace CardDeck

def carriageReturn : UInt8 := 13

/-- The bytes with a carriage return before every newline. -/
def withReturns (bytes : List UInt8) : List UInt8 :=
  bytes.flatMap fun byte => if byte = newline then [carriageReturn, newline] else [byte]

theorem withReturns_of_plain {line : List UInt8} (plain : newline ∉ line) :
    withReturns line = line := by
  induction line with
  | nil => rfl
  | cons byte line ih =>
    rw [List.mem_cons, not_or] at plain
    obtain ⟨first, more⟩ := plain
    rw [withReturns, List.flatMap_cons, if_neg (Ne.symm first)]
    exact congrArg (byte :: ·) (ih more)

theorem withReturns_next {line : List UInt8} (plain : newline ∉ line) (rest : List UInt8) :
    withReturns (line ++ newline :: rest) =
      line ++ [carriageReturn] ++ newline :: withReturns rest := by
  have front := withReturns_of_plain plain
  rw [withReturns] at front
  rw [withReturns, List.flatMap_append, front, List.flatMap_cons, if_pos rfl, List.append_assoc]
  rfl

namespace Encoding

variable {encoding : Encoding} {line : List UInt8}

theorem decode_return {text : Text} (decoded : encoding.decode line = .ok text) :
    encoding.decode (line ++ [carriageReturn]) = .ok (text ++ ['\r']) := by
  have last := encoding.decode_ascii_append (c := '\r') (by decide) []
  rw [decode_nil] at last
  rw [decode_append decoded]
  exact congrArg (behind text line.length) last

theorem return_of_decode {front : Text} (decoded : encoding.decode line = .ok (front ++ ['\r'])) :
    ∃ before, line = before ++ [carriageReturn] := by
  refine ⟨encoding.encode front, ?_⟩
  have single : encoding.encode ['\r'] = [carriageReturn] := by
    rw [encode_cons, encode_nil, List.append_nil]
    exact encoding.encodeChar_of_ascii (by decide)
  rw [← (encode_of_decode decoded).2, encode_append, single]

end Encoding

theorem Card.ofLine_return {text : Text} (other : text.getLast? ≠ some '\r') (line : Nat) :
    ofLine line (text ++ ['\r']) = ofLine line text := by
  have same : Text.dropFinalReturn (text ++ ['\r']) = Text.dropFinalReturn text := by
    rw [Text.dropFinalReturn_concat, Text.dropFinalReturn_of_ne text other]
  simp only [ofLine, same]

/-- A line that is read with a carriage return at its end comes to the same item without it. -/
theorem Reader.itemsFrom_withReturns {encoding : Encoding} {bytes : List UInt8}
    (bare : ¬ [carriageReturn, newline] <:+: bytes) (line : Nat) (failure : Option Text) :
    itemsFrom encoding line ⟨withReturns bytes, failure⟩ =
      itemsFrom encoding line ⟨bytes, failure⟩ := by
  induction bytes using Lines.line_induction newline generalizing line with
  | last bytes plain => rw [withReturns_of_plain plain]
  | next bytes rest plain ih =>
    have further : ¬ [carriageReturn, newline] <:+: rest := by
      intro pair
      apply bare
      have suffix : rest <:+ bytes ++ newline :: rest := ⟨bytes ++ [newline], by simp⟩
      exact pair.trans suffix.isInfix
    have plain' : newline ∉ bytes ++ [carriageReturn] := by
      intro member
      rcases List.mem_append.mp member with here | last
      · exact plain here
      · exact absurd (List.mem_singleton.mp last) (by decide)
    rw [withReturns_next plain, itemsFrom_of_complete (Source.nextLine_next plain' _ failure),
      itemsFrom_of_complete (Source.nextLine_next plain rest failure)]
    cases decoded : encoding.decode bytes with
    | error offset => rw [Encoding.decode_append_low_error decoded (by decide) []]
    | ok text =>
      have other : text.getLast? ≠ some '\r' := by
        intro last
        obtain ⟨front, rfl⟩ := List.getLast?_eq_some_iff.mp last
        obtain ⟨before, rfl⟩ := Encoding.return_of_decode decoded
        apply bare
        exact ⟨before, rest, by simp⟩
      rw [Encoding.decode_return decoded]
      dsimp only
      rw [Card.ofLine_return other, ih further]

/--
A source in which no newline has a carriage return before it gives the same cards and errors when
every newline is given one, and so the same statements, whether the source ends or fails.
-/
theorem Statements.run_withReturns (encoding : Encoding) {bytes : List UInt8}
    (bare : ¬ [carriageReturn, newline] <:+: bytes) (failure : Option Text) :
    (Feed.ofSource encoding ⟨withReturns bytes, failure⟩).items =
      (Feed.ofSource encoding ⟨bytes, failure⟩).items ∧
    ∀ options, (ofFeed options (.ofSource encoding ⟨withReturns bytes, failure⟩)).run =
      (ofFeed options (.ofSource encoding ⟨bytes, failure⟩)).run := by
  have items : (Feed.ofSource encoding ⟨withReturns bytes, failure⟩).items =
      (Feed.ofSource encoding ⟨bytes, failure⟩).items :=
    Reader.itemsFrom_withReturns bare 0 failure
  refine ⟨items, fun options => ?_⟩
  rw [run_eq_runItems rfl, run_eq_runItems rfl]
  exact congrArg (runItems options) items

/-- A carriage return inside of a line, and a character that the end of its line cuts off. -/
def bareBytes : List UInt8 := Encoding.utf8.encode "A\rB\n\n".toList ++ [0xC3, newline, 0xA9]

theorem Statements.run_withReturns_cut :
    ¬ [carriageReturn, newline] <:+: bareBytes ∧
    (Feed.ofSource .utf8 ⟨withReturns bareBytes, none⟩).items =
      (Feed.ofSource .utf8 ⟨bareBytes, none⟩).items ∧
    (ofUtf8Source {} ⟨withReturns bareBytes, none⟩).run =
      (ofUtf8Source {} ⟨bareBytes, none⟩).run := by
  have bare : ¬ [carriageReturn, newline] <:+: bareBytes := by decide
  obtain ⟨items, runs⟩ := run_withReturns .utf8 bare none
  exact ⟨bare, items, runs {}⟩

end CardDeck
