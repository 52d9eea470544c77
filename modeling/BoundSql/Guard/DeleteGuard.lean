import BoundSql.Guard.Evaluation
import BoundSql.Guard.RuleTable
import BoundSql.Session.Call

/-!
# Guarded deletions

A guard loads the rules of an owner, asks them, and lets a deletion run only
when all of them pass. The deletion is raced against the signal like the
questions before it.
-/

namespace BoundSql

/-- The rule that a row describes. -/
def GuardRule.ofRow (r : Row) : Except Error GuardRule := do
  let id ← r.int "id" .int64
  let owner ← r.text "owner_entity_id"
  let name ← r.text "name"
  let predicate ← r.text "predicate_sql"
  let enabled ← r.bool "enabled"
  let order ← r.int "evaluation_order" .int32
  pure { id, owner, name, predicate, enabled, order := order.toInt32 }

/-- Asks a statement on a connection and looks for the column in its first row. -/
def Connection.probe : Guard.Probe Connection := fun statement column =>
  (Connection.queryFirst? statement).andThen fun row =>
    match row with
    | none => .ok .noRow
    | some cells =>
      match cells.namedPlace? column with
      | none => .ok .missingColumn
      | some place => (cells.readAt column place Cell.value?).map .value

/-- A table of rules, and the column in which their predicates answer. -/
structure DeleteGuard where
  rules : RuleTable
  column : String
  deriving DecidableEq, Repr

namespace DeleteGuard

/-- The guard of a configuration. -/
def ofConfig (c : GuardConfig) : Except Error DeleteGuard := do
  pure ⟨← RuleTable.ofConfig c, c.canDeleteColumn⟩

/-- Loads the rules of an owner. -/
def load (g : DeleteGuard) (owner : String) : Call (List GuardRule) :=
  Call.run (.ok (g.rules.load owner)) fun s =>
    (Connection.query s).andThen fun rows => rows.mapM GuardRule.ofRow

/-- What the rules of an owner say. -/
def check (g : DeleteGuard) (owner : String) (params : ParameterBag) : Call Decision := do
  let rules ← g.load owner
  Guard.evaluate Connection.probe g.column rules params

/-- Runs a deletion if the rules of its owner allow it, and gives the number of rows deleted. -/
def guardedDelete (g : DeleteGuard) (owner : String) (params : ParameterBag)
    (deletion : Statement) : Call Nat := do
  let decision ← g.check owner params
  decision.result
  Task.race (Connection.execute deletion)

end DeleteGuard

end BoundSql
