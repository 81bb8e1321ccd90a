import CardDeck.Proofs.Feed.Reading
import CardDeck.Proofs.Statement.Continued
import CardDeck.Proofs.Statement.Safety

set_option autoImplicit false

namespace CardDeck

namespace Reader

theorem itemsFrom_failing (encoding : Encoding) (line : Nat) (bytes : List UInt8) (reason : Text) :
    itemsFrom encoding line ⟨bytes, some reason⟩ =
      itemsOfLines encoding line [.error (.read (line + bytes.count newline + 1) reason)]
        (Lines.ended newline bytes) := by
  have whole := itemsFrom_append encoding line bytes [] (some reason)
  have last := Source.nextLine_last (Lines.tail_plain newline bytes) (some reason)
  rw [List.append_nil, List.append_nil, itemsFrom_of_failed last] at whole
  exact whole

end Reader

namespace Statements

/-- The statements before an error are given whatever comes in its place. -/
theorem runItems_settled {options : Options} {cards : List Card} (lines : Ascending cards)
    (counted : options.maxContinuations ≠ some topLimit) :
    ∃ statements : List Statement,
      (∀ error after, runItems options (cards.map .ok ++ .error error :: after) =
        { results := statements.map .ok ++ [.error error] }) ∧
      ∀ after, statements.map .ok <+: (runItems options (cards.map .ok ++ after)).results := by
  have ascending : Ascending (cardsOf (cards.map .ok)) := by rw [cardsOf_map_ok]; exact lines
  obtain ⟨statements, pending, suffix, open', append⟩ :=
    runItems_append (Clean.map_ok cards) ascending counted
  have further := ascending.sublist (List.Sublist.filterMap _ suffix.sublist)
  refine ⟨statements, ?_, ?_⟩
  · intro error after
    rw [append, runItems_pending_error open' further counted]
    rfl
  · intro after
    rw [append]
    exact List.prefix_append _ _

theorem run_ofSource (options : Options) (source : Source) :
    (ofSource options source).run =
      runItems options (Reader.itemsFrom options.encoding 0 source) := run_eq_runItems rfl

theorem ascending_itemsFrom (encoding : Encoding) (line : Nat) (source : Source) :
    Ascending (cardsOf (Reader.itemsFrom encoding line source)) := (Reader.ascending _).1

theorem run_ofSource_fault {options : Options} (counted : options.maxContinuations ≠ some topLimit)
    (source : Source) : (ofSource options source).run.fault = none :=
  run_fault_none counted (ascending_itemsFrom options.encoding 0 source)

/--
What is read of a source that fails: statements, which the source gives too that goes on from there,
and then one error. The error is that of the first line that was ended and is not decoded, which the
longer source comes to as well, or that of the line in which the source fails.
-/
theorem run_interrupted {options : Options} (counted : options.maxContinuations ≠ some topLimit)
    (front back : List UInt8) (reason : Text) (ending : Option Text) :
    (ofSource options ⟨front, some reason⟩).run.fault = none ∧
    (ofSource options ⟨front ++ back, ending⟩).run.fault = none ∧
    ∃ (statements : List Statement) (error : SourceError),
      (ofSource options ⟨front, some reason⟩).run.results =
        statements.map .ok ++ [.error error] ∧
      statements.map .ok <+: (ofSource options ⟨front ++ back, ending⟩).run.results ∧
      ((∃ before line after offset, Lines.ended newline front = before ++ line :: after ∧
          options.encoding.decode line = .error offset ∧
          error = .decode (before.length + 1) options.encoding offset ∧
          (ofSource options ⟨front ++ back, ending⟩).run =
            (ofSource options ⟨front, some reason⟩).run) ∨
        ((∀ line ∈ Lines.ended newline front, ∃ text, options.encoding.decode line = .ok text) ∧
          error = .read (1 + front.count newline) reason)) := by
  refine ⟨run_ofSource_fault counted _, run_ofSource_fault counted _, ?_⟩
  have cut := Reader.itemsFrom_failing options.encoding 0 front reason
  have full := Reader.itemsFrom_append options.encoding 0 front back ending
  have ascending := ascending_itemsFrom options.encoding 0 ⟨front, some reason⟩
  rw [run_ofSource, run_ofSource, cut, full]
  rw [cut] at ascending
  rcases Reader.itemsOfLines_cases options.encoding 0 (Lines.ended newline front) with
    ⟨texts, decoded, items⟩ | ⟨before, line, after, texts, offset, lines, -, failed, items⟩
  · rw [items, cardsOf_append, cardsOf_map_ok] at ascending
    obtain ⟨statements, broken, given⟩ :=
      runItems_settled (List.pairwise_append.mp ascending).1 counted
    rw [items, items]
    refine ⟨statements, _, congrArg Run.results (broken _ []), given _, Or.inr ⟨?_, ?_⟩⟩
    · intro line member
      have outcome := List.mem_map_of_mem (f := options.encoding.decode) member
      rw [decoded] at outcome
      obtain ⟨text, -, same⟩ := List.mem_map.mp outcome
      exact ⟨text, same.symm⟩
    · rw [Nat.zero_add, Nat.add_comm]
  · rw [items, cardsOf_append, cardsOf_map_ok] at ascending
    obtain ⟨statements, broken, given⟩ :=
      runItems_settled (List.pairwise_append.mp ascending).1 counted
    rw [items, items]
    refine ⟨statements, _, congrArg Run.results (broken _ []), given _,
      Or.inl ⟨before, line, after, offset, lines, failed, ?_, rfl⟩⟩
    rw [Nat.zero_add]

/-- A statement, and a literal that goes on over the line in which the source breaks off. -/
def cutLines : List Text := ["      A = 1".toList, "      B = 'S".toList]

/-- The source breaks off after the first byte of a character of two. -/
def cutBytes : List UInt8 :=
  Encoding.utf8.encode ("      A = 1\n      B = 'S\n     1T".toList) ++ [0xC3]

theorem run_interrupted_open :
    ∃ statements : List Statement,
      (ofSource {} ⟨cutBytes, some "gone".toList⟩).run.results =
        statements.map .ok ++ [.error (.read 3 "gone".toList)] ∧
      statements.map .ok <+: (ofSource {} ⟨cutBytes ++ [0xA9, 0x27], none⟩).run.results := by
  obtain ⟨-, -, statements, error, cut, full, which⟩ :=
    run_interrupted (by decide : ({} : Options).maxContinuations ≠ some topLimit) cutBytes
      [0xA9, 0x27] "gone".toList none
  have lines : Lines.ended newline cutBytes = cutLines.map Encoding.utf8.encode := by decide
  have count : cutBytes.count newline = 2 := by decide
  refine ⟨statements, ?_, full⟩
  rcases which with ⟨before, line, after, offset, same, failed, -⟩ | ⟨-, read⟩
  · have member : line ∈ cutLines.map Encoding.utf8.encode := by
      rw [← lines, same]
      exact List.mem_append_right _ List.mem_cons_self
    obtain ⟨text, -, rfl⟩ := List.mem_map.mp member
    have has : ∀ c ∈ text, Encoding.utf8.Has c := fun _ _ => trivial
    have never := (Encoding.decode_encode has).symm.trans failed
    cases never
  · rw [cut, read, count]

end Statements

end CardDeck
