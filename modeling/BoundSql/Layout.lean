import BoundSql.ColumnType
import BoundSql.Ident
import BoundSql.Json.Record

/-!
# Layouts

A layout lists the columns of a table or of a function's result with their
declared types. Columns are found by name without regard to letter case, the
first of several counting.
-/

namespace BoundSql

open BoundSql.Text

/-- A column and the name of its type. -/
structure ColumnInfo where
  name : String
  declaredType : String
  deriving DecidableEq, Repr

namespace ColumnInfo

/-- The family of the column's values. -/
def type (c : ColumnInfo) : ColumnType :=
  .ofDeclared c.declaredType

/-- The column of a JSON record. -/
def ofJson? (j : Json) : Option ColumnInfo := do
  let r ← j.record? ["name", "declaredType"]
  pure ⟨← r.required "name" Json.asString?, ← r.required "declaredType" Json.asString?⟩

/-- The column as JSON. -/
def toJson (c : ColumnInfo) : Json :=
  .object [("declaredType", .string c.declaredType), ("name", .string c.name)]

end ColumnInfo

/-- The columns of a table or of a result. -/
structure Layout where
  columns : List ColumnInfo
  deriving DecidableEq, Repr

namespace Layout

/-- The first column of a name. -/
def find? (l : Layout) (name : String) : Option ColumnInfo :=
  l.columns.find? fun c => sameName c.name name

/-- The columns that are named, in the order of the layout. -/
def restrictTo (l : Layout) (names : List String) : Layout :=
  ⟨l.columns.filter fun c => names.any fun n => sameName c.name n⟩

/-- The layout of a JSON array of columns. -/
def ofJson? (j : Json) : Option Layout :=
  (j.asList? ColumnInfo.ofJson?).map Layout.mk

/-- The layout as JSON. -/
def toJson (l : Layout) : Json :=
  .array (l.columns.map ColumnInfo.toJson)

end Layout

/-- A table-valued function: its inputs in order of declaration and the columns of its result. -/
structure FunctionSignature where
  name : Ident
  inputs : List ColumnInfo
  outputs : Layout
  deriving DecidableEq, Repr

end BoundSql
