import BoundSql.Text.Blank
import BoundSql.Text.LetterCase

/-!
# Column types

A declared type name selects one of ten families of values. Letter case,
surrounding blanks and whatever follows an opening parenthesis do not count,
and an unknown name selects text.
-/

namespace BoundSql

open BoundSql.Text

/-- A family of values. -/
inductive ColumnType where
  | integer
  | decimal
  | float
  | boolean
  | text
  | date
  | timestamp
  | timestampTz
  | uuid
  | json
  deriving DecidableEq, Repr

namespace ColumnType

/-- The name of a family in messages. -/
def label : ColumnType → String
  | .integer => "Integer"
  | .decimal => "Decimal"
  | .float => "Float"
  | .boolean => "Boolean"
  | .text => "Text"
  | .date => "Date"
  | .timestamp => "Timestamp"
  | .timestampTz => "TimestampTz"
  | .uuid => "Uuid"
  | .json => "Json"

/-- The declared names of each family but text, in lower case. -/
def declaredNames : List (ColumnType × List String) :=
  [(.integer, ["int", "integer", "int2", "int4", "int8", "smallint", "bigint", "tinyint",
     "serial", "smallserial", "bigserial", "oid"]),
   (.decimal, ["decimal", "numeric", "money", "smallmoney"]),
   (.float, ["real", "float", "float4", "float8", "double", "double precision"]),
   (.boolean, ["bool", "boolean", "bit"]),
   (.date, ["date"]),
   (.timestamp, ["timestamp", "timestamp without time zone", "datetime", "datetime2",
     "smalldatetime"]),
   (.timestampTz, ["timestamptz", "timestamp with time zone", "datetimeoffset"]),
   (.uuid, ["uuid", "uniqueidentifier"]),
   (.json, ["json", "jsonb"])]

/-- A declared name in lower case, without blanks around it and without what follows a
parenthesis. -/
def baseName (declared : String) : String :=
  let name := (trimChars declared.toList).map Char.toLower
  String.ofList (dropBlanksEnd (name.takeWhile (· != '(')))

/-- The family that a declared name selects. -/
def ofDeclared (declared : String) : ColumnType :=
  match declaredNames.find? (·.2.contains (baseName declared)) with
  | some (ty, _) => ty
  | none => .text

/-- Whether a blank text is a value of the family. -/
def acceptsBlank : ColumnType → Bool
  | .text => true
  | .json => true
  | _ => false

end ColumnType

end BoundSql
