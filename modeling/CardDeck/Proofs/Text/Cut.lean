import CardDeck.Text.Basic
import Mathlib.Data.List.TakeWhile

set_option autoImplicit false

namespace CardDeck

namespace Text

theorem trimEnd_append_white (text : Text) {padding : Text}
    (white : ∀ c ∈ padding, isWhite c = true) : trimEnd (text ++ padding) = trimEnd text := by
  have behind : ∀ c ∈ padding.reverse, isWhite c = true := by
    intro c member
    exact white c (List.mem_reverse.mp member)
  rw [trimEnd, trimEnd, List.reverse_append, List.dropWhile_append_of_pos behind]

theorem trim_append_white (text : Text) {padding : Text}
    (white : ∀ c ∈ padding, isWhite c = true) : trim (text ++ padding) = trim text := by
  have gone : padding.dropWhile isWhite = [] := List.dropWhile_eq_nil_iff.mpr white
  unfold trim trimStart
  rw [List.dropWhile_append]
  split
  · rename_i empty
    rw [gone, List.isEmpty_iff.mp empty]
  · exact trimEnd_append_white _ white

theorem isWhite_of_mem_blanks {count : Nat} {c : Char} (member : c ∈ List.replicate count ' ') :
    isWhite c = true := by
  rw [List.eq_of_mem_replicate member]
  exact isWhite_space

@[simp] theorem trimEnd_rightpad (text : Text) (width : Nat) :
    trimEnd (text.rightpad width ' ') = trimEnd text :=
  trimEnd_append_white text fun _ => isWhite_of_mem_blanks

@[simp] theorem trim_rightpad (text : Text) (width : Nat) :
    trim (text.rightpad width ' ') = trim text :=
  trim_append_white text fun _ => isWhite_of_mem_blanks

theorem mem_of_mem_trimEnd {text : Text} {c : Char} (member : c ∈ trimEnd text) : c ∈ text := by
  have among := (List.dropWhile_sublist isWhite).subset (List.mem_reverse.mp member)
  exact List.mem_reverse.mp among

theorem mem_of_mem_trim {text : Text} {c : Char} (member : c ∈ trim text) : c ∈ text :=
  (List.dropWhile_sublist isWhite).subset (mem_of_mem_trimEnd member)

theorem takeWhile_front {condition : Char → Bool} {front rest : Text}
    (all : ∀ c ∈ front, condition c = true) (ends : rest.head?.any condition = false) :
    (front ++ rest).takeWhile condition = front := by
  have stop : rest.takeWhile condition = [] := by
    cases rest with
    | nil => rfl
    | cons c rest => exact List.takeWhile_cons_of_neg (Bool.eq_false_iff.mp ends)
  rw [List.takeWhile_append_of_pos all, stop, List.append_nil]

/-- A text is cut in one way only where a condition holds up to the cut and fails behind it. -/
theorem span_inj {condition : Char → Bool} {front other rest others : Text}
    (all : ∀ c ∈ front, condition c = true) (all' : ∀ c ∈ other, condition c = true)
    (ends : rest.head?.any condition = false) (ends' : others.head?.any condition = false)
    (same : front ++ rest = other ++ others) : front = other ∧ rest = others := by
  have cut := congrArg (List.takeWhile condition) same
  rw [takeWhile_front all ends, takeWhile_front all' ends'] at cut
  subst cut
  exact ⟨rfl, List.append_cancel_left same⟩

/-- A text is cut in one way only at the last place that has a character. -/
theorem last_inj {mark : Char} {front other rest others : Text} (plain : mark ∉ rest)
    (plain' : mark ∉ others) (same : front ++ mark :: rest = other ++ mark :: others) :
    front = other ∧ rest = others := by
  have ne : ∀ {text : Text}, mark ∉ text → ∀ c ∈ text.reverse, (c != mark) = true := by
    intro text without c member
    exact bne_iff_ne.mpr fun here => without (here ▸ List.mem_reverse.mp member)
  have turned : rest.reverse ++ mark :: front.reverse = others.reverse ++ mark :: other.reverse := by
    simpa using congrArg List.reverse same
  have stop : ∀ text : Text, (mark :: text).head?.any (· != mark) = false := by simp
  obtain ⟨back, before⟩ := Text.span_inj (ne plain) (ne plain') (stop _) (stop _) turned
  exact ⟨List.reverse_inj.mp (List.cons.inj before).2, List.reverse_inj.mp back⟩

end Text

namespace Decimal

theorem not_mem_text {c : Char} (other : c.isDigit = false) (n : Nat) : c ∉ text n := by
  intro member
  rw [isDigit_of_mem_text member] at other
  cases other

/-- A number and what is written behind it are told from the text, unless more digits follow. -/
theorem append_inj {m n : Nat} {rest others : Text} (ends : rest.head?.any Char.isDigit = false)
    (ends' : others.head?.any Char.isDigit = false) (same : text m ++ rest = text n ++ others) :
    m = n ∧ rest = others := by
  obtain ⟨digits, behind⟩ := Text.span_inj (fun _ => isDigit_of_mem_text)
    (fun _ => isDigit_of_mem_text) ends ends' same
  exact ⟨text_inj.mp digits, behind⟩

theorem append_ne {rest other : Text} (plain : other.head?.any Char.isDigit = false) (n : Nat) :
    text n ++ rest ≠ other := by
  rintro rfl
  have written : text n ≠ [] := Nat.toDigits_ne_nil
  obtain ⟨c, digits, same⟩ := List.exists_cons_of_ne_nil written
  have digit : c ∈ text n := same ▸ List.mem_cons_self
  rw [same] at plain
  exact not_mem_text plain n digit

end Decimal

end CardDeck
