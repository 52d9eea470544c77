import BoundSql.Filter.Compile
import BoundSql.ParameterBag

/-!
# Table-valued functions

A call binds the function's inputs in order of declaration, null where an
argument is not given. Its result is filtered and ordered by its output
columns alone; an allow-list narrows the columns to order by.
-/

namespace BoundSql

open Fragment

/-- A call of a table-valued function. -/
structure FunctionCall where
  signature : FunctionSignature
  args : ParameterBag
  request : FilterRequest
  orderAllowed : Option (List String)

namespace FunctionCall

/-- The value of one input. -/
def input (args : ParameterBag) (column : ColumnInfo) : Except Error Value :=
  match args.get? column.name with
  | none => .ok .null
  | some j =>
    if isSkipped column.type j then .ok .null
    else (Value.coerce column.type j).mapError (.invalidValue column.name)

/-- The values of the inputs in order; the first argument that does not fit is the error. -/
def inputs (args : ParameterBag) : List ColumnInfo → Except Error (List Value)
  | [] => .ok []
  | c :: r => do
    let v ← input args c
    let vs ← inputs args r
    pure (v :: vs)

/-- The call itself, with its inputs in parentheses. -/
def callFragment (name : Ident) (values : List Value) : Fragment :=
  ident name ++ text "(" ++ intercalate (text ", ") (values.map bound) ++ text ")"

/-- The filtered result of the call behind the given head of a statement. -/
def source (c : FunctionCall) (head : String) : Except Error Fragment := do
  let values ← inputs c.args c.signature.inputs
  let clauses ← Condition.clauses (.layout c.signature.outputs) c.request.conditions
  pure (text head ++ callFragment c.signature.name values ++ Clause.whereFragment clauses)

/-- The output columns that the result may be ordered by. -/
def orderScope (c : FunctionCall) : Scope :=
  .layout (c.orderAllowed.elim c.signature.outputs c.signature.outputs.restrictTo)

/-- The rows that the call gives. -/
def select (c : FunctionCall) : Except Error Statement := do
  let source ← c.source "SELECT * FROM "
  pure (source ++ orderAndPage c.orderScope c.request.order c.request.paging).build

/-- The number of rows that the call gives. -/
def count (c : FunctionCall) : Except Error Statement := do
  pure (← c.source "SELECT COUNT(*) FROM ").build

end FunctionCall

end BoundSql
