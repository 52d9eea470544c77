import BoundSql.Json.Reader
import BoundSql.Wire.Parameter

/-!
# Cells

A cell of a result is null or holds bytes in the binary form of its column's
type. Its value belongs to the family of the type.
-/

namespace BoundSql

open Wire

/-- Why a cell has no value. -/
inductive CellFault where
  | malformed
  | unsupported (ty : WireType)
  deriving DecidableEq, Repr

/-- The wording of a type without values. -/
def CellFault.message? : CellFault → Option String
  | .malformed => none
  | .unsupported ty => some ("unsupported column type " ++ ty.label)

namespace Value

/-- The JSON value of a string of bytes. -/
def jsonOfBytes? (bytes : List UInt8) : Option Value :=
  ((text? bytes).bind Json.ofText?).map .json

/-- The value of an integer of exactly `width` bytes. -/
def intOfBytes? (width : Nat) (bytes : List UInt8) : Option Value :=
  (signed? width bytes).map fun n => .int (Int64.ofInt n)

/-- The value of a string of bytes of a type, if it spells one. -/
def ofBytes? (ty : WireType) (bytes : List UInt8) : Option Value :=
  match ty with
  | .bool =>
    match bytes with
    | [b] => some (.bool (b != 0))
    | _ => none
  | .int2 => intOfBytes? 2 bytes
  | .int4 => intOfBytes? 4 bytes
  | .int8 => intOfBytes? 8 bytes
  | .oid => (number? 4 bytes).map fun n => .int (Int64.ofNat n)
  | .float4 => (number? 4 bytes).map fun n => .float (.ofSingle n)
  | .float8 => (number? 8 bytes).map fun n => .float ⟨UInt64.ofNat n⟩
  | .numeric => ((Groups.ofBytes? bytes).bind Groups.decimal?).map .decimal
  | .text | .varchar | .bpchar | .name | .unknown => (text? bytes).map .text
  | .date => (signed? 4 bytes).bind fun n => (Date.ofDay? (n + epochDay)).map .date
  | .timestamp => (signed? 8 bytes).bind fun n => (Timestamp.ofMicros? n).map .timestamp
  | .timestamptz => (signed? 8 bytes).bind fun n => (Timestamp.ofMicros? n).map .timestampTz
  | .uuid => (number? 16 bytes).map fun n => .uuid ⟨BitVec.ofNat 128 n⟩
  | .json => jsonOfBytes? bytes
  | .jsonb =>
    match bytes with
    | b :: r => if b = 1 then jsonOfBytes? r else none
    | [] => none
  | .bytea | .inet | .int4Array => none

/-- The value of a cell of a type. -/
def receive (ty : WireType) (cell : Option (List UInt8)) : Except CellFault Value :=
  match cell with
  | none => .ok .null
  | some bytes =>
    match ty.family? with
    | none => .error (.unsupported ty)
    | some _ =>
      match ofBytes? ty bytes with
      | some v => .ok v
      | none => .error .malformed

end Value

end BoundSql
