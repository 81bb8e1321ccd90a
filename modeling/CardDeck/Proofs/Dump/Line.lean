import CardDeck.Command
import CardDeck.Proofs.Text.Cut

/-!
The lines of a dump: a heading, a token or an error, each told from its text.

A label, a lexeme and a message stand in their line as they are, so that they may look like any
other part of it. What is written around them still says where each of them ends.
-/

set_option autoImplicit false

namespace CardDeck

namespace Position

theorem text_inj {p q : Position} (same : p.text = q.text) : p = q := by
  obtain ⟨line, column⟩ := Decimal.append_inj (by rfl) (by rfl) same
  cases p
  cases q
  simp only [mk.injEq]
  exact ⟨line, Decimal.text_inj.mp (List.cons.inj column).2⟩

theorem not_mem_text {c : Char} (other : c.isDigit = false) (colon : c ≠ ':')
    (position : Position) : c ∉ position.text := by
  simp only [text, List.mem_append, List.mem_cons, not_or]
  exact ⟨Decimal.not_mem_text other _, colon, Decimal.not_mem_text other _⟩

end Position

namespace Token

/-- The lexeme stands on one line, and an end of a statement, which shows none, has none. -/
structure Legible (token : Token) : Prop where
  oneLine : '\n' ∉ token.lexeme
  ended : token.isStatementEnd = true → token.lexeme = []

/-- The text of a token up to the at sign before its place. -/
def caption (token : Token) : Text :=
  if token.isStatementEnd then "<end> ".toList else token.kind.name ++ ' ' :: token.lexeme ++ [' ']

theorem text_eq (token : Token) : token.text = token.caption ++ '@' :: token.position.text := by
  unfold text caption
  split
  · rfl
  · simp

theorem kind_not_blank (kind : TokenKind) : ∀ c ∈ kind.name, (c != ' ') = true := by
  apply List.all_eq_true.mp
  cases kind <;> rfl

theorem head?_kind (kind : TokenKind) (rest : Text) :
    (kind.name ++ rest).head? ≠ some '<' ∧ (kind.name ++ rest).head? ≠ some 'e' := by
  have front : (kind.name ++ rest).head? = kind.name.head? := by
    cases kind <;> rfl
  rw [front]
  cases kind <;> decide

theorem caption_inj {token other : Token} (legible : token.Legible) (legible' : other.Legible)
    (same : token.caption = other.caption) :
    token.kind = other.kind ∧ token.lexeme = other.lexeme := by
  have named : ∀ kind : TokenKind, ∀ rest : Text, kind.name ++ rest ≠ "<end> ".toList := by
    intro kind rest same
    exact (head?_kind kind rest).1 (congrArg List.head? same)
  unfold caption at same
  by_cases ends : token.isStatementEnd = true
  · by_cases ends' : other.isStatementEnd = true
    · rw [legible.ended ends, legible'.ended ends']
      exact ⟨(beq_iff_eq.mp ends).trans (beq_iff_eq.mp ends').symm, rfl⟩
    · rw [if_pos ends, if_neg ends', List.append_assoc] at same
      exact absurd same.symm (named _ _)
  · by_cases ends' : other.isStatementEnd = true
    · rw [if_neg ends, if_pos ends', List.append_assoc] at same
      exact absurd same (named _ _)
    · rw [if_neg ends, if_neg ends'] at same
      have front := List.append_cancel_right same
      obtain ⟨name, lexeme⟩ := Text.span_inj (kind_not_blank _) (kind_not_blank _) (by rfl)
        (by rfl) front
      exact ⟨TokenKind.name_inj.mp name, (List.cons.inj lexeme).2⟩

/-- A token is told from its text: whatever its lexeme holds, its place is behind the last sign. -/
theorem text_inj {token other : Token} (legible : token.Legible) (legible' : other.Legible)
    (same : token.text = other.text) : token = other := by
  rw [text_eq, text_eq] at same
  have plain : ∀ position : Position, '@' ∉ position.text :=
    Position.not_mem_text (by decide) (by decide)
  obtain ⟨front, place⟩ := Text.last_inj (plain _) (plain _) same
  obtain ⟨kind, lexeme⟩ := caption_inj legible legible' front
  cases token
  cases other
  simp only [mk.injEq]
  exact ⟨kind, lexeme, Position.text_inj place⟩

end Token

/-- A line of the dump of a statement. -/
inductive DumpLine where
  | heading (first last : Nat) (label : Text)
  | token (token : Token)
  | error (message : Text)
deriving DecidableEq, Repr

namespace DumpLine

/-- The label behind a heading, if there is one. -/
def tag (label : Text) : Text := if label = [] then [] else " label ".toList ++ label

def text : DumpLine → Text
  | .heading first last label =>
    "STATEMENT lines ".toList ++ Decimal.text first ++ ['-'] ++ Decimal.text last ++ tag label
  | .token found => "  ".toList ++ found.text
  | .error message => "  error: ".toList ++ message

theorem text_heading (first last : Nat) (label : Text) :
    (heading first last label).text = "STATEMENT lines ".toList ++ Decimal.text first ++ ['-'] ++
      Decimal.text last ++ tag label := rfl

theorem text_token (found : Token) : (DumpLine.token found).text = "  ".toList ++ found.text := rfl

theorem text_error (message : Text) : (error message).text = "  error: ".toList ++ message := rfl

/-- What stands in the line is no more than one line. -/
def Legible : DumpLine → Prop
  | .heading _ _ label => '\n' ∉ label
  | .token found => found.Legible
  | .error message => '\n' ∉ message

theorem tag_inj {label other : Text} (same : tag label = tag other) : label = other := by
  unfold tag at same
  by_cases empty : label = [] <;> by_cases empty' : other = [] <;> simp_all

theorem heading_inj {first last first' last' : Nat} {label label' : Text}
    (same : (heading first last label).text = (heading first' last' label').text) :
    heading first last label = heading first' last' label' := by
  have ends : ∀ label : Text, (tag label).head?.any Char.isDigit = false := by
    intro label
    unfold tag
    by_cases empty : label = [] <;> simp [empty]
  simp only [text_heading, List.append_assoc, List.append_cancel_left_eq] at same
  obtain ⟨start, behind⟩ := Decimal.append_inj (by rfl) (by rfl) same
  obtain ⟨stop, tags⟩ := Decimal.append_inj (ends _) (ends _) (List.append_cancel_left behind)
  rw [start, stop, tag_inj tags]

/-- No token is written like an error. -/
theorem token_ne_error (token : Token) (message : Text) :
    (DumpLine.token token).text ≠ (error message).text := by
  intro same
  have behind : token.text = "error: ".toList ++ message := List.append_cancel_left same
  have front : token.text.head? ≠ some 'e' := by
    unfold Token.text
    split
    · intro equal
      cases Option.some.inj equal
    · rw [List.append_assoc, List.append_assoc]
      exact (Token.head?_kind _ _).2
  rw [behind] at front
  exact front rfl

/-- Every line is told from its text, and so is what kind of a line it is. -/
theorem text_inj {line other : DumpLine} (legible : line.Legible) (legible' : other.Legible)
    (same : line.text = other.text) : line = other := by
  -- a heading starts with a letter, and any other line with a blank
  have headed : ∀ {front back : Text}, "STATEMENT".toList ++ front ≠ ' ' :: back := by
    intro front back equal
    cases Option.some.inj (congrArg List.head? equal)
  cases line with
  | heading first last label =>
    cases other with
    | heading first' last' label' => exact heading_inj same
    | token found => exact absurd same headed
    | error message => exact absurd same headed
  | token found =>
    cases other with
    | heading first last label => exact absurd same.symm headed
    | token other => rw [Token.text_inj legible legible' (List.append_cancel_left same)]
    | error message => exact absurd same (token_ne_error found message)
  | error message =>
    cases other with
    | heading first last label => exact absurd same.symm headed
    | token found => exact absurd same.symm (token_ne_error found message)
    | error other => rw [List.append_cancel_left same]

theorem newline_not_mem {line : DumpLine} (legible : line.Legible) : '\n' ∉ line.text := by
  have digits : ∀ n, '\n' ∉ Decimal.text n := Decimal.not_mem_text (by decide)
  cases line with
  | heading first last label =>
    have behind : '\n' ∉ tag label := by
      unfold tag
      split
      · exact List.not_mem_nil
      · rw [List.mem_append, not_or]
        exact ⟨by decide, legible⟩
    simp only [text_heading, List.mem_append, not_or]
    exact ⟨⟨⟨⟨by decide, digits first⟩, by decide⟩, digits last⟩, behind⟩
  | token found =>
    have caption : '\n' ∉ found.caption := by
      have name : '\n' ∉ found.kind.name := by
        cases found.kind <;> decide
      unfold Token.caption
      split
      · decide
      · simp only [List.mem_append, List.mem_cons, List.not_mem_nil, or_false, not_or]
        exact ⟨⟨name, by decide, legible.oneLine⟩, by decide⟩
    have place : '\n' ∉ found.position.text :=
      Position.not_mem_text (by decide) (by decide) found.position
    simp only [text_token, Token.text_eq, List.mem_append, List.mem_cons, not_or]
    exact ⟨by decide, caption, by decide, place⟩
  | error message =>
    simp only [text_error, List.mem_append, not_or]
    exact ⟨by decide, legible⟩

end DumpLine

end CardDeck
