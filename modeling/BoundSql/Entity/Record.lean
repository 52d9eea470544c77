import BoundSql.Calendar.Loose
import BoundSql.Decimal.Literal
import BoundSql.Entity.Shape
import BoundSql.Json.Record
import BoundSql.Session.Row

/-!
# Records

A record type lists typed properties, each mapped to a column of its entity.
A record is read from JSON or from a row of a result, in which the columns go
by the names of the properties, and it is given as its values in order.
-/

namespace BoundSql

/-- A property: the field that it is mapped to, the kind of its values, and whether it may be
missing. -/
structure Property where
  field : FieldShape
  kind : CellKind
  nullable : Bool := false
  deriving DecidableEq, Repr

/-- A type of records. -/
structure RecordType where
  name : String
  table : String
  audited : Bool
  properties : List Property
  deriving DecidableEq, Repr

namespace CellKind

/-- The value of an integer from a range. -/
def intOfJson? (low high : Int) (j : Json) : Option Value :=
  j.asInt?.bind fun n => if low ≤ n ∧ n ≤ high then some (.int (Int64.ofInt n)) else none

/-- The double nearest to a number, by way of the nearest single one if asked. -/
def floatOfNumber (isSingle : Bool) : JsonNumber → Double
  | .integer n =>
    if isSingle then
      .ofSingle (Binary.single.signed (n.value < 0) (Binary.single.nearest n.value.natAbs 1))
    else .ofInt n.value
  | .float x => if isSingle then .ofSingle x.double.toSingle else x.double

/-- The decimal of a number or a text. -/
def decimalOfJson? : Json → Option Decimal
  | .string s => Decimal.ofText? s
  | .number (.integer n) => Decimal.ofText? (Text.integerText n.value)
  | .number (.float x) => Decimal.ofText? (Binary.Spelling.plain.write x.double)
  | _ => none

/-- The value of a kind that a JSON value stands for. -/
def ofJson? (kind : CellKind) (j : Json) : Option Value :=
  let chars := j.asString?.map String.toList
  match kind with
  | .bool => j.asBool?.map .bool
  | .int16 => intOfJson? Int16.minValue.toInt Int16.maxValue.toInt j
  | .int32 => intOfJson? Int32.minValue.toInt Int32.maxValue.toInt j
  | .int64 => j.asInt64?.map .int
  | .uint32 => intOfJson? 0 (UInt32.size - 1) j
  | .float32 =>
    match j with
    | .number n => some (.float (floatOfNumber true n))
    | _ => none
  | .float64 =>
    match j with
    | .number n => some (.float (floatOfNumber false n))
    | _ => none
  | .decimal => (decimalOfJson? j).map .decimal
  | .text => j.asString?.map .text
  | .date => (chars.bind Date.ofLooseChars?).map .date
  | .timestamp => (chars.bind Timestamp.ofLooseChars?).map .timestamp
  | .instant => (chars.bind Instant.ofLooseChars?).map .timestampTz
  | .uuid => (chars.bind Uuid.ofChars?).map .uuid
  | .json => some (.json j)

end CellKind

namespace RecordType

/-- The shape of the entity of a record type. -/
def shape (t : RecordType) : EntityShape :=
  ⟨t.name, t.table, t.audited, t.properties.map (·.field)⟩

/-- The values of a JSON record. -/
def ofJson? (t : RecordType) (j : Json) : Option (List Value) := do
  let r ← j.record? (t.properties.map (·.field.property))
  t.properties.mapM fun p =>
    if p.nullable then
      (r.optional p.field.property p.kind.ofJson?).map (·.getD .null)
    else r.required p.field.property p.kind.ofJson?

/-- The values of a row. -/
def ofRow (t : RecordType) (r : Row) : Except Error (List Value) :=
  t.properties.mapM fun p => r.read p.field.property p.kind p.nullable

end RecordType

end BoundSql
