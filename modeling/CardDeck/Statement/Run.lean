import CardDeck.Statement.Sequence

set_option autoImplicit false

namespace CardDeck

/-- The results of a run in their order, and the fault that broke it off, if one did. -/
structure Run where
  results : List Result
  fault : Option Fault := none

namespace Statements

/-- What the first `count` calls for the next statement come to. -/
def steps : Nat → Statements → Except Fault (List Step)
  | 0, _ => .ok []
  | count + 1, statements => do
    let step ← statements.next
    return step :: (← steps count step.rest)

/-- Takes statements, invalid ones too, until there is none. -/
def run (statements : Statements) : Run :=
  match _ : statements.next with
  | .error fault => { results := [], fault := some fault }
  | .ok step =>
    match _ : step.result with
    | none => { results := [] }
    | some result =>
      let later := run step.rest
      { later with results := result :: later.results }
termination_by statements.cards.size
decreasing_by exact size_next_lt (by assumption) (by assumption)

/-- The records of a run, those of the call that gives no statement any more among them. -/
def journal (statements : Statements) : List Record :=
  match _ : statements.next with
  | .error _ => []
  | .ok step =>
    match _ : step.result with
    | none => step.records
    | some _ => step.records ++ journal step.rest
termination_by statements.cards.size
decreasing_by exact size_next_lt (by assumption) (by assumption)

/-- Takes statements until there is none, and stops at the first failure. -/
def collect (statements : Statements) : Except Fault (Except Failure (List Statement)) :=
  match _ : statements.next with
  | .error fault => .error fault
  | .ok step =>
    match _ : step.result with
    | none => .ok (.ok [])
    | some (.error error) => .ok (.error (.source error))
    | some (.ok statement) =>
      match statement.strict with
      | .error error => .ok (.error (.lex error))
      | .ok valid => do return (← collect step.rest).map (valid :: ·)
termination_by statements.cards.size
decreasing_by exact size_next_lt (by assumption) (by assumption)

end Statements

end CardDeck
