import BoundSql.DynamicRow
import BoundSql.Error
import BoundSql.Wire.Cell

/-!
# Rows

A row of a result is a list of cells, each with its column's name and type. A
cell is found by the exact name of its column, else by the name without regard
to letter case, and it is read as a kind of value that takes only some types.
-/

namespace BoundSql

open BoundSql.Text

/-- A cell of a result. -/
structure Cell where
  column : String
  type : WireType
  bytes : Option (List UInt8)
  deriving DecidableEq, Repr

/-- The cells of a row in the order of the columns. -/
abbrev Row := List Cell

/-- A kind of value that a cell is read as. -/
inductive CellKind where
  | bool
  | int16
  | int32
  | int64
  | uint32
  | float32
  | float64
  | decimal
  | text
  | date
  | timestamp
  | instant
  | uuid
  | json
  deriving DecidableEq, Repr

namespace CellKind

/-- The types that a kind of value is read from. -/
def types : CellKind → List WireType
  | .bool => [.bool]
  | .int16 => [.int2]
  | .int32 => [.int4]
  | .int64 => [.int8]
  | .uint32 => [.oid]
  | .float32 => [.float4]
  | .float64 => [.float8]
  | .decimal => [.numeric]
  | .text => [.text, .varchar, .bpchar, .name, .unknown]
  | .date => [.date]
  | .timestamp => [.timestamp]
  | .instant => [.timestamptz]
  | .uuid => [.uuid]
  | .json => [.json, .jsonb]

end CellKind

namespace Cell

/-- The value of a cell of any type that has values. -/
def value? (c : Cell) : Option Value :=
  if c.type.family?.isNone then none
  else (Value.receive c.type c.bytes).toOption

/-- The value of a cell as a kind, nothing when it cannot be read as that. Null is read only where
it may stand. -/
def read? (c : Cell) (kind : CellKind) (nullable : Bool) : Option Value :=
  if !kind.types.contains c.type then none
  else match c.bytes with
    | none => if nullable then some .null else none
    | some bytes => Value.ofBytes? c.type bytes

end Cell

namespace Row

/-- The place of the first column that has a name but for letter case. -/
def namedPlace? (r : Row) (column : String) : Option Nat :=
  r.findIdx? fun c => sameName c.column column

/-- The place of a column. -/
def place? (r : Row) (column : String) : Option Nat :=
  (r.findIdx? fun c => c.column == column).or (r.namedPlace? column)

/-- What is taken from the cell at a place; errors are about the given name. -/
def readAt (r : Row) (name : String) (place : Nat) (take : Cell → Option α) : Except Error α :=
  match r[place]? with
  | none => .error (.decode name (.noColumn (decimalText place)))
  | some c =>
    match take c with
    | some a => .ok a
    | none => .error (.decode name (.cell place))

/-- What is taken from the cell of a column. -/
def readBy (r : Row) (column : String) (take : Cell → Option α) : Except Error α :=
  match r.place? column with
  | none => .error (.decode column (.noColumn column))
  | some place => r.readAt column place take

/-- The value of a column as a kind. -/
def read (r : Row) (column : String) (kind : CellKind) (nullable : Bool) : Except Error Value :=
  r.readBy column (·.read? kind nullable)

/-- The text of a column, or null. -/
def textOrNull (r : Row) (column : String) : Except Error (Option String) :=
  r.readBy column fun c =>
    match c.read? .text true with
    | some (.text s) => some (some s)
    | some .null => some none
    | _ => none

/-- The text of a column. -/
def text (r : Row) (column : String) : Except Error String :=
  r.readBy column fun c =>
    match c.read? .text false with
    | some (.text s) => some s
    | _ => none

/-- The truth value of a column. -/
def bool (r : Row) (column : String) : Except Error Bool :=
  r.readBy column fun c =>
    match c.read? .bool false with
    | some (.bool b) => some b
    | _ => none

/-- The integer of a column, of the width that the kind says. -/
def int (r : Row) (column : String) (kind : CellKind) : Except Error Int64 :=
  r.readBy column fun c =>
    match c.read? kind false with
    | some (.int n) => some n
    | _ => none

/-- The value in the first column, which goes by the given name in errors. -/
def firstValue (r : Row) (name : String) : Except Error Value :=
  r.readAt name 0 Cell.value?

/-- The names and values of all columns. -/
def dynamic (r : Row) : Except Error DynamicRow :=
  DynamicRow.mk <$> r.zipIdx.mapM fun (c, place) => do
    pure (c.column, ← r.readAt c.column place Cell.value?)

end Row

end BoundSql
