import BoundSql.Json.Printer
import BoundSql.Value.Coerce
import BoundSql.Wire.Numeric
import BoundSql.Wire.WireType

/-!
# Parameters on the wire

A value is sent in the binary form of the type that the server declares for
its placeholder. It moves to the family of the type first; a type without a
family takes every value in a form of its own.
-/

namespace BoundSql

open Wire

/-- Why a value cannot be sent as a type. -/
inductive SendFault where
  | refused (r : Refusal)
  | outOfRange
  deriving Repr

/-- The day from which dates and timestamps on the wire are counted, the first of January 2000. -/
def Wire.epochDay : Int := 10957

/-- Microseconds from the start of 2000. A fraction of a microsecond is cut off towards the start
of 2000, and a leap second counts as the second after it. -/
def Timestamp.micros (t : Timestamp) : Int :=
  ((t.unixSecond - 86400 * epochDay) * 1000000000 + t.time.nano).tdiv 1000

/-- The timestamp of a number of microseconds from the start of 2000. -/
def Timestamp.ofMicros? (n : Int) : Option Timestamp :=
  Timestamp.ofUnix? (86400 * epochDay + n / 1000000) (1000 * (n % 1000000).toNat)

namespace Value

/-- The value in the family of a type. -/
def forType (ty : WireType) (v : Value) : Except Refusal Value :=
  match ty.family? with
  | some family => v.convert family
  | none => .ok v

/-- An integer in a signed or unsigned number of bytes, if it is in range. -/
def sendInt (width : Nat) (low high n : Int) : Except SendFault (List UInt8) :=
  if low ≤ n ∧ n ≤ high then .ok (signedBytes width n) else .error .outOfRange

/-- The bytes of a value that is in the family of the type. -/
def bytes (ty : WireType) : Value → Except SendFault (Option (List UInt8))
  | .null => .ok none
  | .bool b => .ok (some [if b then 1 else 0])
  | .int n =>
    match ty with
    | .int2 => (sendInt 2 Int16.minValue.toInt Int16.maxValue.toInt n.toInt).map some
    | .int4 => (sendInt 4 Int32.minValue.toInt Int32.maxValue.toInt n.toInt).map some
    | .oid => (sendInt 4 0 (UInt32.size - 1) n.toInt).map some
    | _ => .ok (some (signedBytes 8 n.toInt))
  | .float x =>
    match ty with
    | .float4 => .ok (some (bigEndian 4 x.toSingle))
    | _ => .ok (some (bigEndian 8 x.bits.toNat))
  | .decimal d => .ok (some (Groups.ofDecimal d).bytes)
  | .text s => .ok (some (textBytes s))
  | .date d => .ok (some (signedBytes 4 (d.day - epochDay)))
  | .timestamp t => .ok (some (signedBytes 8 t.micros))
  | .timestampTz t => .ok (some (signedBytes 8 t.micros))
  | .uuid u => .ok (some (bigEndian 16 u.bits.toNat))
  | .json v =>
    match ty with
    | .jsonb => .ok (some (1 :: textBytes v.toText))
    | _ => .ok (some (textBytes v.toText))

/-- The value as it is sent for a type; null is sent as nothing. -/
def send (ty : WireType) (v : Value) : Except SendFault (Option (List UInt8)) := do
  (← (v.forType ty).mapError .refused).bytes ty

end Value

end BoundSql
