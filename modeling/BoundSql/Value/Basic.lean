import BoundSql.Calendar.Instant
import BoundSql.ColumnType
import BoundSql.Decimal.Literal
import BoundSql.Json.Printer
import BoundSql.Text.Quoted
import BoundSql.Uuid

/-!
# Values

A value is what a statement binds and what a row holds. Every value but null
belongs to one family.
-/

namespace BoundSql

open BoundSql.Text

/-- A value of one of the families, or null. -/
inductive Value where
  | null
  | bool (b : Bool)
  | int (n : Int64)
  | float (x : Double)
  | decimal (d : Decimal)
  | text (s : String)
  | date (d : Date)
  | timestamp (t : Timestamp)
  | timestampTz (t : Timestamp)
  | uuid (u : Uuid)
  | json (v : Json)
  deriving Repr, Inhabited

namespace Value

/-- Whether the value is null. -/
def isNull : Value → Bool
  | .null => true
  | _ => false

/-- The family of the value. -/
def type? : Value → Option ColumnType
  | .null => none
  | .bool _ => some .boolean
  | .int _ => some .integer
  | .float _ => some .float
  | .decimal _ => some .decimal
  | .text _ => some .text
  | .date _ => some .date
  | .timestamp _ => some .timestamp
  | .timestampTz _ => some .timestampTz
  | .uuid _ => some .uuid
  | .json _ => some .json

/-- The value of a JSON value without a declared type. An integer beyond the signed words becomes
the nearest double. -/
def ofJson : Json → Value
  | .null => .null
  | .bool b => .bool b
  | .number n =>
    match n.int64? with
    | some i => .int i
    | none => .float n.toDouble
  | .string s => .text s
  | .array items => .json (.array items)
  | .object fields => .json (.object fields)

/-- The JSON value of a double; null when it has none. -/
def jsonOfDouble (x : Double) : Json :=
  match JsonNumber.ofDouble? x with
  | some n => .number n
  | none => .null

/-- The value as JSON. -/
def toJson : Value → Json
  | .null => .null
  | .bool b => .bool b
  | .int n => .number (.ofInt64 n)
  | .float x => jsonOfDouble x
  | .decimal d => .string d.toText
  | .text s => .string s
  | .date d => .string d.toText
  | .timestamp t => .string t.toText
  | .timestampTz t => .string t.toOffsetText
  | .uuid u => .string u.toText
  | .json v => v

/-- The text of a truth value. -/
def boolText (b : Bool) : String :=
  if b then "true" else "false"

/-- The value as a message shows it, under the name of its kind. -/
def shown : Value → String
  | .null => "Null"
  | .bool b => "Bool(" ++ boolText b ++ ")"
  | .int n => "Int(" ++ integerText n.toInt ++ ")"
  | .float x => "Float(" ++ Binary.Spelling.marked.write x ++ ")"
  | .decimal d => "Decimal(" ++ d.toText ++ ")"
  | .text s => "Text(" ++ quoted s ++ ")"
  | .date d => "Date(" ++ d.toText ++ ")"
  | .timestamp t => "Timestamp(" ++ t.toText ++ ")"
  | .timestampTz t => "TimestampTz(" ++ t.toZuluText ++ ")"
  | .uuid u => "Uuid(" ++ u.toText ++ ")"
  | .json v => "Json(" ++ v.toText ++ ")"

end Value

end BoundSql
