import CardDeck.Text.Basic

set_option autoImplicit false

namespace CardDeck.Lines

variable {α : Type}

/-- A sequence has one line without an end, or its first line and what is behind that line. -/
@[elab_as_elim]
theorem line_induction (separator : α) {motive : List α → Prop}
    (last : ∀ line, separator ∉ line → motive line)
    (next : ∀ line rest, separator ∉ line → motive rest → motive (line ++ separator :: rest))
    (whole : List α) : motive whole := by
  induction length : whole.length using Nat.strongRecOn generalizing whole with
  | ind size ih =>
    by_cases ended : separator ∈ whole
    · obtain ⟨line, rest, rfl, plain⟩ := List.eq_append_cons_of_mem ended
      rw [List.length_append, List.length_cons] at length
      exact next line rest plain (ih rest.length (by omega) rest rfl)
    · exact last whole ended

variable [BEq α] [LawfulBEq α]

/-- The lines that a separator ends. -/
def ended (separator : α) (whole : List α) : List (List α) := (whole.splitOn separator).dropLast

/-- What stands behind the last separator. -/
def tail (separator : α) (whole : List α) : List α := (whole.splitOn separator).getLastD []

/-- The length of all lines that a separator ends, with their separators. -/
def tailStart (separator : α) (whole : List α) : Nat :=
  ((ended separator whole).flatMap fun line => line ++ [separator]).length

/-- All lines, the last of which need not be ended. -/
def all (separator : α) (whole : List α) : List (List α) :=
  if tail separator whole = [] then ended separator whole else whole.splitOn separator

/-- The lines with the separators that end them. -/
def pieces (separator : α) (whole : List α) : List (List α) :=
  (ended separator whole).map (· ++ [separator]) ++
    if tail separator whole = [] then [] else [tail separator whole]

variable {separator : α} {line : List α}

theorem ended_of_plain (plain : separator ∉ line) : ended separator line = [] := by
  rw [ended, List.splitOn_eq_singleton plain]
  rfl

@[simp] theorem ended_next (plain : separator ∉ line) (rest : List α) :
    ended separator (line ++ separator :: rest) = line :: ended separator rest := by
  rw [ended, List.splitOn_append_cons_self_of_not_mem plain,
    List.dropLast_cons_of_ne_nil (List.splitOn_ne_nil _ _)]
  rfl

theorem tail_of_plain (plain : separator ∉ line) : tail separator line = line := by
  rw [tail, List.splitOn_eq_singleton plain]
  rfl

@[simp] theorem tail_next (plain : separator ∉ line) (rest : List α) :
    tail separator (line ++ separator :: rest) = tail separator rest := by
  obtain ⟨first, more, same⟩ := List.exists_cons_of_ne_nil (List.splitOn_ne_nil separator rest)
  rw [tail, List.splitOn_append_cons_self_of_not_mem plain, tail, same]
  rfl

theorem tail_plain (separator : α) (whole : List α) : separator ∉ tail separator whole := by
  induction whole using line_induction separator with
  | last line plain => rw [tail_of_plain plain]; exact plain
  | next line rest plain ih => rw [tail_next plain]; exact ih

theorem tailStart_of_plain (plain : separator ∉ line) : tailStart separator line = 0 := by
  rw [tailStart, ended_of_plain plain]
  rfl

@[simp] theorem tailStart_next (plain : separator ∉ line) (rest : List α) :
    tailStart separator (line ++ separator :: rest) =
      line.length + 1 + tailStart separator rest := by
  rw [tailStart, ended_next plain, List.flatMap_cons, List.length_append, List.length_append,
    List.length_singleton, tailStart]

theorem all_of_plain (plain : separator ∉ line) :
    all separator line = if line = [] then [] else [line] := by
  rw [all, tail_of_plain plain, ended_of_plain plain, List.splitOn_eq_singleton plain]

@[simp] theorem all_next (plain : separator ∉ line) (rest : List α) :
    all separator (line ++ separator :: rest) = line :: all separator rest := by
  rw [all, all, tail_next plain, ended_next plain,
    List.splitOn_append_cons_self_of_not_mem plain]
  split <;> rfl

theorem all_flatMap {lines : List (List α)} (plain : ∀ line ∈ lines, separator ∉ line) :
    all separator (lines.flatMap (· ++ [separator])) = lines := by
  induction lines with
  | nil => exact all_of_plain List.not_mem_nil
  | cons line lines ih =>
    obtain ⟨first, others⟩ := List.forall_mem_cons.mp plain
    rw [List.flatMap_cons, List.append_assoc, List.singleton_append, all_next first, ih others]

theorem pieces_of_plain (plain : separator ∉ line) :
    pieces separator line = if line = [] then [] else [line] := by
  rw [pieces, ended_of_plain plain, tail_of_plain plain]
  rfl

@[simp] theorem pieces_next (plain : separator ∉ line) (rest : List α) :
    pieces separator (line ++ separator :: rest) =
      (line ++ [separator]) :: pieces separator rest := by
  rw [pieces, ended_next plain, tail_next plain]
  rfl

theorem flatten_pieces (separator : α) (whole : List α) :
    (pieces separator whole).flatten = whole := by
  induction whole using line_induction separator with
  | last line plain =>
    rw [pieces_of_plain plain]
    split
    · rename_i empty
      exact empty.symm
    · exact List.append_nil line
  | next line rest plain ih =>
    rw [pieces_next plain, List.flatten_cons, ih, List.append_assoc]
    rfl

theorem ended_length (separator : α) (whole : List α) :
    (ended separator whole).length = whole.count separator := by
  induction whole using line_induction separator with
  | last line plain => rw [ended_of_plain plain, List.count_eq_zero.mpr plain]; rfl
  | next line rest plain ih =>
    rw [ended_next plain, List.length_cons, ih, List.count_append, List.count_eq_zero.mpr plain,
      List.count_cons_self, Nat.zero_add]

/-- Behind a last line that was ended all lines are lines of their own. -/
theorem all_append {front : List α} (whole : front = [] ∨ front.getLast? = some separator)
    (back : List α) :
    all separator (front ++ back) = ended separator front ++ all separator back := by
  induction front using line_induction separator with
  | last line plain =>
    rcases whole with rfl | last
    · rw [ended_of_plain plain]
      rfl
    · exact absurd (List.mem_of_getLast? last) plain
  | next line rest plain ih =>
    have further : rest = [] ∨ rest.getLast? = some separator := by
      rcases whole with none | last
      · simp at none
      · cases rest with
        | nil => exact Or.inl rfl
        | cons first rest =>
          right
          simpa [List.getLast?_append, List.getLast?_cons_cons] using last
    rw [List.append_assoc, List.cons_append, all_next plain, ended_next plain, ih further]
    rfl

theorem all_map {change : α → α} (kept : ∀ a, change a = separator ↔ a = separator)
    (whole : List α) :
    all separator (whole.map change) = (all separator whole).map (List.map change) := by
  have plain_map : ∀ line : List α, separator ∉ line → separator ∉ line.map change := by
    intro line plain member
    obtain ⟨a, inside, same⟩ := List.mem_map.mp member
    exact plain ((kept a).mp same ▸ inside)
  induction whole using line_induction separator with
  | last line plain =>
    rw [all_of_plain plain, all_of_plain (plain_map line plain)]
    cases line <;> rfl
  | next line rest plain ih =>
    rw [List.map_append, List.map_cons, (kept separator).mpr rfl, all_next (plain_map line plain),
      all_next plain, ih]
    rfl

end CardDeck.Lines
