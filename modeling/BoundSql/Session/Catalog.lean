import BoundSql.Layout
import BoundSql.Session.Call

/-!
# The catalogue

The database describes its tables and functions in a catalogue, where names
are in lower case. A function with several overloads stands for the first of
them, and a parameter without a name goes by its number.
-/

namespace BoundSql.Catalog

open BoundSql.Text

/-- The schema and the name of an identifier as the catalogue spells them. -/
def key (i : Ident) : List Value :=
  let (schema, name) := i.splitSchema
  [schema.elim .null fun s => .text (lower s), .text (lower name)]

/-- Asks for the columns of a table. -/
def tableStatement (table : Ident) : Statement where
  sql := "SELECT column_name::text AS column_name, data_type::text AS data_type "
    ++ "FROM information_schema.columns "
    ++ "WHERE table_schema = COALESCE($1, current_schema()) AND table_name = $2 "
    ++ "ORDER BY ordinal_position"
  params := key table

/-- Asks for the parameters of a function in all its overloads. -/
def functionStatement (function : Ident) : Statement where
  sql := "SELECT r.specific_name::text AS specific_name, "
    ++ "p.parameter_name::text AS parameter_name, "
    ++ "p.data_type::text AS data_type, "
    ++ "p.parameter_mode::text AS parameter_mode "
    ++ "FROM information_schema.routines r "
    ++ "LEFT JOIN information_schema.parameters p "
    ++ "ON p.specific_schema = r.specific_schema AND p.specific_name = r.specific_name "
    ++ "WHERE r.routine_schema = COALESCE($1, current_schema()) AND r.routine_name = $2 "
    ++ "ORDER BY r.specific_name, p.ordinal_position"
  params := key function

/-- The column that a row of the catalogue describes. -/
def column (r : Row) : Except Error ColumnInfo := do
  let name ← r.text "column_name"
  let declaredType ← r.text "data_type"
  pure { name, declaredType }

/-- The layout that rows of the catalogue describe; a table without columns is not there. -/
def layout (table : Ident) (rows : List Row) : Except Error Layout :=
  if rows.isEmpty then .error (.notFound (.table table.text))
  else do pure ⟨← rows.mapM column⟩

/-- The parameters of a function: those that go in, and those that come out. -/
structure Parameters where
  inputs : List ColumnInfo := []
  outputs : List ColumnInfo := []
  deriving DecidableEq, Repr

/-- Parameters with one more of a mode. -/
def Parameters.add (p : Parameters) (mode : String) (c : ColumnInfo) : Parameters :=
  let mode := upper mode
  let goesIn := mode == "IN" || mode == "INOUT"
  let comesOut := mode == "INOUT" || mode == "OUT" || mode == "TABLE"
  ⟨if goesIn then p.inputs ++ [c] else p.inputs, if comesOut then p.outputs ++ [c] else p.outputs⟩

/-- Parameters with those of an overload added, up to the first row of another one. A row without a
mode describes no parameter. -/
def addOverload (overload : String) (p : Parameters) : List Row → Except Error Parameters
  | [] => .ok p
  | r :: rows => do
    if (← r.text "specific_name") ≠ overload then return p
    match ← r.textOrNull "parameter_mode" with
    | none => addOverload overload p rows
    | some mode =>
      let declaredType ← r.text "data_type"
      let number := String.ofList ('$' :: digits (p.inputs.length + 1))
      let name := (← r.textOrNull "parameter_name").getD number
      addOverload overload (p.add mode ⟨name, declaredType⟩) rows

/-- The signature that rows of the catalogue describe. -/
def signature (function : Ident) (rows : List Row) : Except Error FunctionSignature :=
  match rows with
  | [] => .error (.notFound (.function function.text))
  | first :: _ => do
    let overload ← first.text "specific_name"
    let p ← addOverload overload {} rows
    pure ⟨function, p.inputs, ⟨p.outputs⟩⟩

/-- Looks a table up. -/
def discoverTable (table : Ident) : Call Layout :=
  Call.run (.ok (tableStatement table)) fun s =>
    (Connection.query s).andThen (layout table)

/-- Looks a function up. -/
def discoverFunction (function : Ident) : Call FunctionSignature :=
  Call.run (.ok (functionStatement function)) fun s =>
    (Connection.query s).andThen (signature function)

end BoundSql.Catalog
