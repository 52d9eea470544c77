import BoundSql.Error
import BoundSql.Json.Record

/-!
# Configuration

A configuration names the anonymous user, the table of guard rules and the
column in which a rule's predicate answers. Each has a default.
-/

namespace BoundSql

open BoundSql.Text

/-- Where the guard rules are and where they answer. -/
structure GuardConfig where
  rulesTable : String := "delete_guard_rule"
  canDeleteColumn : String := "CanDelete"
  deriving DecidableEq, Repr

/-- The configuration of the library. -/
structure Config where
  anonymousUser : String := "anonymous"
  guard : GuardConfig := {}
  deriving DecidableEq, Repr

/-- The guard configuration of a JSON record. -/
def GuardConfig.ofJson? (j : Json) : Option GuardConfig := do
  let r ← j.record? ["rules_table", "can_delete_column"]
  let rulesTable ← r.withDefault "rules_table" ({} : GuardConfig).rulesTable Json.asString?
  let canDeleteColumn ←
    r.withDefault "can_delete_column" ({} : GuardConfig).canDeleteColumn Json.asString?
  pure { rulesTable, canDeleteColumn }

namespace Config

/-- What is wrong with a configuration; the first fault in the order of the fields. -/
def fault? (c : Config) : Option ConfigFault :=
  if isBlank c.anonymousUser then some .anonymousUser
  else match Ident.qualified? c.guard.rulesTable, Ident.column? c.guard.canDeleteColumn with
    | .error fault, _ => some (.rulesTable fault)
    | .ok _, .error fault => some (.canDeleteColumn fault)
    | .ok _, .ok _ => none

/-- The configuration itself when nothing is wrong with it. -/
def validated (c : Config) : Except Error Config :=
  match c.fault? with
  | some fault => .error (.config fault)
  | none => .ok c

end Config

end BoundSql
