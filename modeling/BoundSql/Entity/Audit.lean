import BoundSql.Calendar.Timestamp
import BoundSql.Ident
import BoundSql.Text.Blank

/-!
# Audit columns

An audited table has five columns of fixed names: who created and who last
updated a row, when, and whether the row counts as deleted. A stamp says who
acts and when.
-/

namespace BoundSql

open BoundSql.Text

/-- Who acts, and at which instant. -/
structure Stamp where
  user : String
  time : Timestamp
  deriving DecidableEq, Repr

namespace Audit

/-- The column for the creator of a row. -/
def createdBy : Ident := ⟨"created_by", by decide⟩

/-- The column for the time of creation. -/
def createdAt : Ident := ⟨"created_at", by decide⟩

/-- The column for the last editor of a row. -/
def updatedBy : Ident := ⟨"updated_by", by decide⟩

/-- The column for the time of the last edit. -/
def updatedAt : Ident := ⟨"updated_at", by decide⟩

/-- The column that marks a row as deleted. -/
def isDeleted : Ident := ⟨"is_deleted", by decide⟩

/-- The audit columns in the order in which they are written. -/
def columns : List Ident :=
  [createdBy, createdAt, updatedBy, updatedAt, isDeleted]

/-- Whether a column is named like an audit column. -/
def isAudit (column : Ident) : Bool :=
  columns.any (·.isNamed column.text)

/-- Whether a column is named like one of the two that an edit stamps. -/
def isEditor (column : Ident) : Bool :=
  updatedBy.isNamed column.text || updatedAt.isNamed column.text

end Audit

/-- The name under which actions are stamped: the acting user's, or the anonymous one when there is
no user with a name. -/
def userName (anonymous : String) (user : Option String) : String :=
  match user with
  | some name => if isBlank name then anonymous else name
  | none => anonymous

end BoundSql
