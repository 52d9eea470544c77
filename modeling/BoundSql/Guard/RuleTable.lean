import BoundSql.Config
import BoundSql.Fragment
import BoundSql.Error

/-!
# The table of rules

Rules are kept in a table. Only the enabled ones of an owner that are not
marked as deleted are loaded, in the order in which they are asked.
-/

namespace BoundSql

open Fragment

/-- A table of rules. -/
structure RuleTable where
  table : Ident
  deriving DecidableEq, Repr

namespace RuleTable

/-- The table that a configuration names. -/
def ofConfig (c : GuardConfig) : Except Error RuleTable := do
  pure ⟨← Ident.qualified c.rulesTable⟩

/-- The columns of a rule, each under its own name and in the type that it is read as. -/
def columns : String :=
  "id::bigint AS id, owner_entity_id::text AS owner_entity_id, name::text AS name, "
    ++ "predicate_sql::text AS predicate_sql, enabled, "
    ++ "evaluation_order::integer AS evaluation_order"

/-- Loads the rules of an owner. -/
def load (t : RuleTable) (owner : String) : Statement :=
  (text "SELECT " ++ text columns ++ text " FROM " ++ ident t.table
    ++ text " WHERE owner_entity_id = " ++ bound (.text owner)
    ++ text " AND enabled = " ++ bound (.bool true) ++ text " AND is_deleted = "
    ++ bound (.bool false) ++ text " ORDER BY evaluation_order, id").build

end RuleTable

end BoundSql
