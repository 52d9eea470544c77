import BoundSql.ColumnType

/-!
# Wire types

The server declares a type for every parameter and for every column of a
result. Most of them belong to a family of values; a value of such a type
moves to its family before it is sent.
-/

namespace BoundSql

/-- A type of the server. -/
inductive WireType where
  | bool
  | int2
  | int4
  | int8
  | oid
  | float4
  | float8
  | numeric
  | text
  | varchar
  | bpchar
  | name
  | unknown
  | date
  | timestamp
  | timestamptz
  | uuid
  | json
  | jsonb
  | bytea
  | inet
  | int4Array
  deriving DecidableEq, Repr

namespace WireType

/-- The family of a type's values, if values of the type can be read at all. -/
def family? : WireType → Option ColumnType
  | .bool => some .boolean
  | .int2 | .int4 | .int8 | .oid => some .integer
  | .float4 | .float8 => some .float
  | .numeric => some .decimal
  | .text | .varchar | .bpchar | .name | .unknown => some .text
  | .date => some .date
  | .timestamp => some .timestamp
  | .timestamptz => some .timestampTz
  | .uuid => some .uuid
  | .json | .jsonb => some .json
  | .bytea | .inet | .int4Array => none

/-- The name of a type in messages. -/
def label : WireType → String
  | .bool => "bool"
  | .int2 => "int2"
  | .int4 => "int4"
  | .int8 => "int8"
  | .oid => "oid"
  | .float4 => "float4"
  | .float8 => "float8"
  | .numeric => "numeric"
  | .text => "text"
  | .varchar => "varchar"
  | .bpchar => "bpchar"
  | .name => "name"
  | .unknown => "unknown"
  | .date => "date"
  | .timestamp => "timestamp"
  | .timestamptz => "timestamptz"
  | .uuid => "uuid"
  | .json => "json"
  | .jsonb => "jsonb"
  | .bytea => "bytea"
  | .inet => "inet"
  | .int4Array => "_int4"

/-- All types. -/
def all : List WireType :=
  [.bool, .int2, .int4, .int8, .oid, .float4, .float8, .numeric, .text, .varchar, .bpchar, .name,
   .unknown, .date, .timestamp, .timestamptz, .uuid, .json, .jsonb, .bytea, .inet, .int4Array]

/-- The type of a name. -/
def ofLabel? (label : String) : Option WireType :=
  all.find? (·.label == label)

end WireType

end BoundSql
