import CardDeck.Command
import CardDeck.Proofs.Feed.Drawn
import CardDeck.Proofs.Text.Cut

set_option autoImplicit false

namespace CardDeck

namespace Lines

variable {α : Type} [BEq α] [LawfulBEq α] {separator : α} {whole : List α}

theorem not_mem_splitOn : ∀ part ∈ whole.splitOn separator, separator ∉ part := by
  induction whole using line_induction separator with
  | last line plain =>
    rw [List.splitOn_eq_singleton plain]
    intro part member
    rw [List.mem_singleton.mp member]
    exact plain
  | next line rest plain ih =>
    rw [List.splitOn_append_cons_self_of_not_mem plain]
    exact List.forall_mem_cons.mpr ⟨plain, ih⟩

theorem not_mem_ended : ∀ line ∈ ended separator whole, separator ∉ line := by
  intro line member
  exact not_mem_splitOn line (List.dropLast_subset _ member)

theorem not_mem_all : ∀ line ∈ all separator whole, separator ∉ line := by
  unfold all
  split
  · exact not_mem_ended
  · exact not_mem_splitOn

end Lines

theorem Source.newline_not_mem_lines (source : Source) : ∀ line ∈ source.lines, newline ∉ line := by
  unfold lines
  split
  · exact Lines.not_mem_all
  · exact Lines.not_mem_ended

theorem Encoding.newline_not_mem_texts {encoding : Encoding} {lines : List (List UInt8)}
    (plain : ∀ line ∈ lines, newline ∉ line) : ∀ text ∈ encoding.texts lines, '\n' ∉ text := by
  induction lines with
  | nil =>
    intro text member
    cases member
  | cons line lines ih =>
    obtain ⟨first, others⟩ := List.forall_mem_cons.mp plain
    unfold texts
    cases decoded : encoding.decode line with
    | error offset =>
      intro text member
      cases member
    | ok text => exact List.forall_mem_cons.mpr ⟨plain_of_decode decoded first, ih others⟩

/-- No field of the card breaks off a line. -/
structure Card.OneLine (card : Card) : Prop where
  label : '\n' ∉ card.label
  marker : card.marker ≠ '\n'
  body : '\n' ∉ card.body
  trailer : '\n' ∉ card.trailer

theorem Card.oneLine_ofLine {text : Text} (plain : '\n' ∉ text) (line : Nat) :
    (ofLine line text).OneLine := by
  have columns : '\n' ∉ text.dropFinalReturn.take cardWidth := by
    intro member
    apply plain
    have front := List.mem_of_mem_take member
    unfold Text.dropFinalReturn at front
    split at front
    · exact List.dropLast_subset _ front
    · exact front
  constructor
  · intro member
    exact columns (List.mem_of_mem_take (Text.mem_of_mem_trim member))
  · show (text.dropFinalReturn.take cardWidth).getD 5 ' ' ≠ '\n'
    rw [List.getD_eq_getElem?_getD]
    cases there : (text.dropFinalReturn.take cardWidth)[5]? with
    | none => decide
    | some c =>
      intro same
      rw [Option.getD_some] at same
      exact columns (same ▸ List.mem_of_getElem? there)
  · show '\n' ∉ List.rightpad bodyWidth ' ' _
    rw [List.rightpad, List.mem_append, not_or]
    constructor
    · intro member
      exact columns (List.mem_of_mem_drop (List.mem_of_mem_take member))
    · intro member
      cases List.eq_of_mem_replicate member
  · intro member
    exact columns (List.mem_of_mem_drop (Text.mem_of_mem_trimEnd member))

theorem Card.oneLine_ofLines {texts : List Text} (plain : ∀ text ∈ texts, '\n' ∉ text)
    (line : Nat) : ∀ card ∈ ofLines line texts, card.OneLine := by
  induction texts generalizing line with
  | nil =>
    intro card member
    cases member
  | cons text texts ih =>
    obtain ⟨first, others⟩ := List.forall_mem_cons.mp plain
    rw [ofLines_cons]
    exact List.forall_mem_cons.mpr ⟨oneLine_ofLine first line, ih others (line + 1)⟩

/-- Every card of a source is one line. -/
theorem Source.oneLine_cards (encoding : Encoding) (source : Source) :
    ∀ card ∈ source.cards encoding, card.OneLine :=
  Card.oneLine_ofLines (Encoding.newline_not_mem_texts source.newline_not_mem_lines) 1

namespace Card

/-- The fields of a card as they are written, without the end of the line. -/
def row (card : Card) : Text :=
  (Decimal.text card.line).leftpad 5 ' ' ++ " |".toList ++ card.label.rightpad 5 ' ' ++
    ['|', card.marker, '|'] ++ Text.trimEnd card.body ++ ['|'] ++ card.trailer

end Card

end CardDeck
