import CardDeck.Text.Basic

set_option autoImplicit false

namespace CardDeck

/-- The byte that ends a line. -/
def newline : UInt8 := 10

/-- The bytes that a source still holds, and why it fails after them, if it does. -/
structure Source where
  bytes : List UInt8
  failure : Option Text := none
deriving DecidableEq, Repr

inductive SourceLine where
  /-- A line without its newline, and what the source holds after it. -/
  | complete (bytes : List UInt8) (rest : Source)
  | failed (reason : Text)
  | exhausted
deriving DecidableEq, Repr

namespace Source

/-- The last line of a source that ends needs no newline; one without any byte is no line. -/
def nextLine (source : Source) : SourceLine :=
  let line := source.bytes.takeWhile (· != newline)
  match source.bytes.dropWhile (· != newline), source.failure with
  | _ :: rest, _ => .complete line { source with bytes := rest }
  | [], some reason => .failed reason
  | [], none => if line.isEmpty then .exhausted else .complete line { source with bytes := [] }

theorem nextLine_length_lt {source rest : Source} {line : List UInt8}
    (read : source.nextLine = .complete line rest) : rest.bytes.length < source.bytes.length := by
  have parts : (source.bytes.takeWhile (· != newline)).length +
      (source.bytes.dropWhile (· != newline)).length = source.bytes.length := by
    rw [← List.length_append, List.takeWhile_append_dropWhile]
  simp only [nextLine] at read
  split at read
  next more => cases read; simp only [more, List.length_cons] at parts ⊢; omega
  next => cases read
  next =>
    split at read
    · cases read
    next present =>
      cases read
      have := List.length_pos_iff.mpr (fun empty => present (List.isEmpty_iff.mpr empty))
      simp only [List.length_nil]
      omega

end Source

end CardDeck
