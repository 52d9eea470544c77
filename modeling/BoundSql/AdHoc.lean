import BoundSql.Clause
import BoundSql.FieldBag

/-!
# Statements on tables without a declared shape

The columns of these statements are the names of field bags; one bad name
refuses the whole statement. Keys pick the rows: a null key asks for null. A
statement that changes rows needs keys.
-/

namespace BoundSql.AdHoc

open Fragment

/-- The clause that picks rows by one key. -/
def keyClause (column : Ident) (v : Value) : Clause :=
  if v.isNull then .null column else .compare column .equal v

/-- The condition that picks rows by their keys. -/
def keyFragment (keys : List (Ident × Value)) : Fragment :=
  Clause.whereFragment (keys.map fun (column, v) => keyClause column v)

/-- Values assigned to columns, with commas between them. -/
def assignments (sets : List (Ident × Value)) : Fragment :=
  joined ", " (sets.map fun (column, v) => ident column ++ text " = " ++ bound v)

/-- The insertion of one row. -/
def insertFragment (table : Ident) (fields : List (Ident × Value)) : Fragment :=
  text "INSERT INTO " ++ ident table
    ++ if fields.isEmpty then text " DEFAULT VALUES"
    else text " (" ++ idents (fields.map Prod.fst) ++ text ") VALUES ("
      ++ boundList (fields.map Prod.snd) ++ text ")"

/-- Inserts a row. -/
def insert (table : Ident) (values : FieldBag) : Except Error Statement := do
  pure (insertFragment table (← values.checked)).build

/-- Inserts a row and returns one of its columns. -/
def insertReturning (table : Ident) (values : FieldBag) (keyColumn : String) :
    Except Error Statement := do
  let key ← Ident.column keyColumn
  let fields ← values.checked
  pure (insertFragment table fields ++ text " RETURNING " ++ ident key).build

/-- Updates the rows of the given keys. -/
def update (table : Ident) (sets keys : FieldBag) : Except Error Statement :=
  if keys.isEmpty then .error .emptyPredicate
  else if sets.isEmpty then .error .nothingToUpdate
  else do
    let sets ← sets.checked
    let keys ← keys.checked
    pure (text "UPDATE " ++ ident table ++ text " SET " ++ assignments sets
      ++ keyFragment keys).build

/-- Deletes the rows of the given keys. -/
def delete (table : Ident) (keys : FieldBag) : Except Error Statement :=
  if keys.isEmpty then .error .emptyPredicate
  else do
    let keys ← keys.checked
    pure (text "DELETE FROM " ++ ident table ++ keyFragment keys).build

/-- Asks whether there are rows of the given keys, or any rows without keys. -/
def exists? (table : Ident) (keys : FieldBag) : Except Error Statement := do
  let keys ← keys.checked
  pure (text "SELECT 1 FROM " ++ ident table ++ keyFragment keys ++ text " LIMIT 1").build

end BoundSql.AdHoc
