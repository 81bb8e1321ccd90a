import CardDeck.Feed.Basic
import CardDeck.Proofs.Statement.Groups

set_option autoImplicit false

namespace CardDeck

theorem Reader.next_line {reader rest : Reader} {item : Item}
    (read : reader.next = some (item, rest)) :
    reader.line ≤ rest.line ∧
      ∀ card, item = .ok card → card.line = rest.line ∧ reader.line < rest.line := by
  unfold next at read
  split at read
  · cases read
  · dsimp only at read
    split at read
    · cases read
    · cases read
      refine ⟨Nat.le_refl _, ?_⟩
      intro card same
      cases same
    · split at read
      · cases read
        refine ⟨Nat.le_succ _, ?_⟩
        intro card same
        cases same
        exact ⟨rfl, Nat.lt_succ_self _⟩
      · cases read
        refine ⟨Nat.le_succ _, ?_⟩
        intro card same
        cases same

/-- The lines of all cards that a reader gives are after those it has read, and they ascend. -/
theorem Reader.ascending (reader : Reader) :
    Ascending (cardsOf (Feed.reading reader).items) ∧
      ∀ card ∈ cardsOf (Feed.reading reader).items, reader.line < card.line := by
  induction size : reader.size using Nat.strongRecOn generalizing reader with
  | ind size ih =>
    cases taken : reader.next with
    | none =>
      have ended : (Feed.reading reader).next = none := by rw [Feed.next, taken]; rfl
      rw [Feed.items_of_next_none ended]
      refine ⟨List.Pairwise.nil, ?_⟩
      intro card member
      cases member
    | some read =>
      obtain ⟨item, rest⟩ := read
      have next : (Feed.reading reader).next = some (item, .reading rest) := by
        rw [Feed.next, taken]
        rfl
      rw [Feed.items_of_next_some next]
      obtain ⟨onward, here⟩ := next_line taken
      obtain ⟨lines, beyond⟩ := ih rest.size (by rw [← size]; exact size_next_lt taken) rest rfl
      cases item with
      | error error =>
        refine ⟨lines, ?_⟩
        intro card member
        exact Nat.lt_of_le_of_lt onward (beyond card member)
      | ok card =>
        obtain ⟨line, later⟩ := here card rfl
        refine ⟨List.pairwise_cons.mpr ⟨?_, lines⟩, ?_⟩
        · intro other member
          rw [line]
          exact beyond other member
        · intro other member
          rcases List.mem_cons.mp member with first | behind
          · rw [first, line]
            exact later
          · exact Nat.lt_of_le_of_lt onward (beyond other behind)

end CardDeck
