import BoundSql.Entity.Where

/-!
# Statements on entities

A row is inserted with the columns that the caller may fill: neither the
generated ones nor the concurrency token, and with a stamp the audit columns
come from the stamp alone. Rows are selected under the names of their
properties. A deleted row is only marked.
-/

namespace BoundSql.Entity

open Fragment

/-- The audit columns and their values on creation. -/
def creationFields (s : Stamp) : List (Ident × Value) :=
  [(Audit.createdBy, .text s.user), (Audit.createdAt, .timestampTz s.time),
   (Audit.updatedBy, .text s.user), (Audit.updatedAt, .timestampTz s.time),
   (Audit.isDeleted, .bool false)]

/-- Whether an insertion takes the field's value from the caller. -/
def isInserted (stamped : Bool) (f : Field) : Bool :=
  !f.isGenerated && !f.isToken && !(stamped && Audit.isAudit f.column)

/-- The columns and values of an insertion. -/
def insertedFields (e : Entity) (values : List Value) (stamp : Option Stamp) :
    List (Ident × Value) :=
  let stamp := if e.audited then stamp else none
  ((e.fields.zip values).filter fun (f, _) => isInserted stamp.isSome f).map
    (fun (f, v) => (f.column, v)) ++ stamp.elim [] creationFields

/-- The insertion of a row; there has to be one value for each field. -/
def insertFragment (e : Entity) (values : List Value) (stamp : Option Stamp) :
    Except Error Fragment :=
  if values.length ≠ e.fields.length then
    .error (.badEntity e.name (.valueCount e.fields.length values.length))
  else
    let fields := e.insertedFields values stamp
    .ok (text "INSERT INTO " ++ ident e.table
      ++ if fields.isEmpty then text " DEFAULT VALUES"
      else text " (" ++ idents (fields.map Prod.fst) ++ text ") VALUES ("
        ++ boundList (fields.map Prod.snd) ++ text ")")

/-- Inserts a row. -/
def insert (e : Entity) (values : List Value) (stamp : Option Stamp) : Except Error Statement := do
  pure (← e.insertFragment values stamp).build

/-- Inserts a row and returns its key. -/
def insertReturningKey (e : Entity) (values : List Value) (stamp : Option Stamp) :
    Except Error Statement := do
  pure ((← e.insertFragment values stamp) ++ text " RETURNING " ++ ident e.key.column).build

/-- A column under the name of its property. -/
def selected (f : Field) : Except Error Fragment := do
  let property ← Ident.column f.property
  pure (ident f.column ++ text " AS " ++ ident property)

/-- Columns under the names of their properties; the first property that is no column name is the
error. -/
def selectedList : List Field → Except Error (List Fragment)
  | [] => .ok []
  | f :: r => do
    let first ← selected f
    let rest ← selectedList r
    pure (first :: rest)

/-- Selects the rows of a restriction, or only the first of them. -/
def select (e : Entity) (rows : Restriction) (first : Bool) : Except Error Statement := do
  let columns ← selectedList e.fields
  pure (text "SELECT " ++ intercalate (text ", ") columns ++ text " FROM " ++ ident e.table
    ++ text " " ++ rows.fragment ++ if first then text " LIMIT 1" else empty).build

/-- A value assigned to a column. -/
def assignment (column : Ident) (v : Value) : Fragment :=
  ident column ++ text " = " ++ bound v

/-- Marks the rows of a restriction as deleted. -/
def softDelete (e : Entity) (rows : Restriction) (stamp : Stamp) : Except Error Statement :=
  match e.softDeleteColumn? with
  | none => .error (.badEntity e.name .noSoftDelete)
  | some deleted =>
    .ok (text "UPDATE " ++ ident e.table ++ text " SET " ++ joined ", "
      [assignment deleted (.bool true), assignment Audit.updatedBy (.text stamp.user),
       assignment Audit.updatedAt (.timestampTz stamp.time)]
      ++ text " " ++ rows.fragment).build

end BoundSql.Entity
