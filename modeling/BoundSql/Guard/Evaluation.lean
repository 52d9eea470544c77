import BoundSql.Guard.Rule
import BoundSql.Task

/-!
# Evaluation of guard rules

The enabled rules are asked one after the other until one does not pass. A
rule that cannot be asked, or whose answer says nothing, refuses the deletion
like one that blocks it; so does the absence of rules. The signal is looked at
before each rule, and each question is raced against it.
-/

namespace BoundSql

namespace Guard

variable {σ : Type}

/-- The way in which a statement is asked: the column that answers is looked for in its result. -/
abbrev Probe (σ : Type) := Statement → (column : String) → Request σ ProbeOutcome

/-- What one rule says: nothing when it passes, else the decision. -/
def askRule (probe : Probe σ) (column : String) (params : ParameterBag) (rule : GuardRule) :
    Task σ (Option Decision) :=
  match rule.question params with
  | .error fault => pure (some (.invalid rule.name fault))
  | .ok statement => do
    let outcome ← Task.race (probe statement column)
    match outcome.verdict column with
    | .ok true => pure none
    | .ok false => pure (some (.blocked rule.name))
    | .error fault => pure (some (.invalid rule.name fault))

/-- What rules say that are asked in the given order. -/
def askRules (probe : Probe σ) (column : String) (params : ParameterBag) :
    List GuardRule → Task σ Decision
  | [] => pure .allowed
  | rule :: r => do
    Task.check
    match ← askRule probe column params rule with
    | some decision => pure decision
    | none => askRules probe column params r

/-- What the enabled rules say. -/
def evaluate (probe : Probe σ) (column : String) (rules : List GuardRule)
    (params : ParameterBag) : Task σ Decision := do
  Task.check
  match GuardRule.asked rules with
  | [] => pure .noRules
  | asked => askRules probe column params asked

end Guard

/-- Answers prepared for the questions of an evaluation, and the questions asked so far. -/
structure Rehearsal where
  prepared : List (Awaited ProbeOutcome)
  asked : List (Statement × String) := []

namespace Rehearsal

/-- The next prepared answer; there is no row once they are used up. -/
def probe : Guard.Probe Rehearsal := fun statement column s =>
  let asked := s.asked ++ [(statement, column)]
  match s.prepared with
  | [] => (⟨.ok .noRow, .never⟩, { s with asked })
  | a :: r => (a, ⟨r, asked⟩)

end Rehearsal

end BoundSql
