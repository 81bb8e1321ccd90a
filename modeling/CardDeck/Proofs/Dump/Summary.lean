import CardDeck.Proofs.Dump.Line
import CardDeck.Proofs.Text.Lines

set_option autoImplicit false

namespace CardDeck

/-- What a dump shows of a statement. -/
structure Summary where
  firstLine : Nat
  lastLine : Nat
  label : Text
  tokens : List Token
  errors : List Text
deriving DecidableEq, Repr

def Statement.summary (statement : Statement) : Summary :=
  { firstLine := statement.line
    lastLine := statement.lastLine
    label := statement.label
    tokens := statement.tokens
    errors := statement.errors.map LexError.message }

/-- All that the dump shows of the statement is legible. -/
structure Statement.Legible (statement : Statement) : Prop where
  label : '\n' ∉ statement.label
  tokens : ∀ token ∈ statement.tokens, token.Legible
  errors : ∀ error ∈ statement.errors, '\n' ∉ error.message

namespace Summary

/-- The heading, and a line for each token and each error. -/
def lines (summary : Summary) : List DumpLine :=
  .heading summary.firstLine summary.lastLine summary.label ::
    (summary.tokens.map .token ++ summary.errors.map .error)

def text (summary : Summary) : Text := summary.lines.flatMap fun line => line.text ++ ['\n']

end Summary

theorem Statement.dump_eq_text (statement : Statement) : statement.dump = statement.summary.text := by
  have heading : statement.heading =
      (DumpLine.heading statement.line statement.lastLine statement.label).text ++ ['\n'] := rfl
  have tokens : (statement.summary.tokens.map DumpLine.token).flatMap
      (fun line => line.text ++ ['\n']) =
        statement.tokens.flatMap fun token => "  ".toList ++ token.text ++ ['\n'] :=
    List.flatMap_map ..
  have errors : (statement.summary.errors.map DumpLine.error).flatMap
      (fun line => line.text ++ ['\n']) =
        statement.errors.flatMap fun error => "  error: ".toList ++ error.message ++ ['\n'] := by
    unfold summary
    rw [List.map_map]
    exact List.flatMap_map ..
  rw [dump, heading, Summary.text, Summary.lines, List.flatMap_cons, List.flatMap_append, tokens,
    errors, List.append_assoc]
  rfl

theorem Statement.Legible.lines {statement : Statement} (legible : statement.Legible) :
    ∀ line ∈ statement.summary.lines, line.Legible := by
  intro line member
  simp only [Summary.lines, summary, List.mem_cons, List.mem_append, List.mem_map,
    List.map_map] at member
  rcases member with rfl | ⟨token, among, rfl⟩ | ⟨error, among, rfl⟩
  · exact legible.label
  · exact legible.tokens token among
  · exact legible.errors error among

namespace DumpLine

/-- Legible lines are told from what is written, one by one. -/
theorem lines_inj {lines others : List DumpLine} (legible : ∀ line ∈ lines, line.Legible)
    (legible' : ∀ line ∈ others, line.Legible)
    (same : lines.flatMap (fun line => line.text ++ ['\n']) =
      others.flatMap (fun line => line.text ++ ['\n'])) : lines = others := by
  have written : ∀ {lines : List DumpLine}, (∀ line ∈ lines, line.Legible) →
      CardDeck.Lines.all '\n' (lines.flatMap fun line => line.text ++ ['\n']) =
        lines.map DumpLine.text := by
    intro lines legible
    have plain : ∀ text ∈ lines.map DumpLine.text, '\n' ∉ text := by
      intro text member
      obtain ⟨line, among, rfl⟩ := List.mem_map.mp member
      exact newline_not_mem (legible line among)
    rw [← CardDeck.Lines.all_flatMap plain, List.flatMap_map]
  have texts : lines.map DumpLine.text = others.map DumpLine.text := by
    rw [← written legible, same, written legible']
  clear same
  induction lines generalizing others with
  | nil => exact (List.map_eq_nil_iff.mp texts.symm).symm
  | cons line lines ih =>
    obtain ⟨other, rest, rfl, first, behind⟩ := List.map_eq_cons_iff.mp texts.symm
    obtain ⟨here, later⟩ := List.forall_mem_cons.mp legible
    obtain ⟨here', later'⟩ := List.forall_mem_cons.mp legible'
    rw [text_inj here' here first, ih later later' behind.symm]

/-- What is read from lines: what stands before the first heading, and what the headings show. -/
structure Reading where
  tokens : List Token := []
  errors : List Text := []
  summaries : List Summary := []
deriving DecidableEq, Repr

/-- Reads a line in front of others; a heading takes all that stands before the next one. -/
def read : DumpLine → Reading → Reading
  | .token found, reading => { reading with tokens := found :: reading.tokens }
  | .error message, reading => { reading with errors := message :: reading.errors }
  | .heading first last label, reading =>
    { summaries := ⟨first, last, label, reading.tokens, reading.errors⟩ :: reading.summaries }

def readAll (lines : List DumpLine) : Reading := lines.foldr read {}

theorem foldr_tokens (tokens : List Token) (reading : Reading) :
    (tokens.map DumpLine.token).foldr read reading =
      { reading with tokens := tokens ++ reading.tokens } := by
  induction tokens with
  | nil => rfl
  | cons found tokens ih =>
    rw [List.map_cons, List.foldr_cons, ih]
    rfl

theorem foldr_errors (messages : List Text) (reading : Reading) :
    (messages.map DumpLine.error).foldr read reading =
      { reading with errors := messages ++ reading.errors } := by
  induction messages with
  | nil => rfl
  | cons message messages ih =>
    rw [List.map_cons, List.foldr_cons, ih]
    rfl

theorem readAll_lines (summaries : List Summary) :
    readAll (summaries.flatMap Summary.lines) = { summaries } := by
  induction summaries with
  | nil => rfl
  | cons summary summaries ih =>
    unfold readAll at ih ⊢
    rw [List.flatMap_cons, List.foldr_append, ih, Summary.lines, List.foldr_cons,
      List.foldr_append, foldr_errors, foldr_tokens]
    simp only [read, List.append_nil]

end DumpLine

/-- Legible statements that are written alike show the same. -/
theorem Statement.dump_inj {statements others : List Statement}
    (legible : ∀ statement ∈ statements, statement.Legible)
    (legible' : ∀ statement ∈ others, statement.Legible) :
    statements.flatMap dump = others.flatMap dump ↔
      statements.map summary = others.map summary := by
  have written : ∀ statements : List Statement, statements.flatMap dump =
      ((statements.map summary).flatMap Summary.lines).flatMap
        fun line => line.text ++ ['\n'] := by
    intro statements
    rw [List.flatMap_assoc, List.flatMap_map]
    exact congrArg (List.flatMap · statements) (funext dump_eq_text)
  have lines : ∀ {statements : List Statement}, (∀ statement ∈ statements, statement.Legible) →
      ∀ line ∈ (statements.map summary).flatMap Summary.lines, line.Legible := by
    intro statements legible line member
    obtain ⟨shown, among, inside⟩ := List.mem_flatMap.mp member
    obtain ⟨statement, there, rfl⟩ := List.mem_map.mp among
    exact (legible statement there).lines line inside
  constructor
  · intro same
    rw [written, written] at same
    have reading := congrArg DumpLine.readAll
      (DumpLine.lines_inj (lines legible) (lines legible') same)
    rw [DumpLine.readAll_lines, DumpLine.readAll_lines] at reading
    exact congrArg DumpLine.Reading.summaries reading
  · intro same
    rw [written, written, same]

end CardDeck
