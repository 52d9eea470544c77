import BoundSql.Value.Basic

/-!
# Dynamic rows

A row of unknown shape is a list of named values. A column is found without
regard to letter case, the first of several counting; as an object the row
keeps the last of several values with exactly one name.
-/

namespace BoundSql

open BoundSql.Text

/-- Named values in the order of the result. -/
structure DynamicRow where
  columns : List (String × Value)
  deriving Repr

namespace DynamicRow

/-- The value of a column. -/
def get? (r : DynamicRow) (column : String) : Option Value :=
  (r.columns.find? fun p => sameName p.1 column).map Prod.snd

/-- The row as a JSON object. -/
def toJson (r : DynamicRow) : Json :=
  .ofFields (r.columns.map fun p => (p.1, p.2.toJson))

end DynamicRow

end BoundSql
