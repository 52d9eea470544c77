import BoundSql.Binary.Double
import BoundSql.Json.Fields
import BoundSql.Number.Word

/-!
# JSON values

A number is an integer of at most 64 bits, signed or unsigned, or a finite
double. The fields of an object stand in increasing order of their keys.
-/

namespace BoundSql

/-- A double with a value. -/
structure FiniteDouble where
  double : Double
  finite : double.isFinite = true
  deriving DecidableEq, Repr

/-- The finite double that a double is, if it is one. -/
def FiniteDouble.of? (x : Double) : Option FiniteDouble :=
  if h : x.isFinite = true then some ⟨x, h⟩ else none

/-- A JSON number. -/
inductive JsonNumber where
  | integer (n : WordInt)
  | float (x : FiniteDouble)
  deriving DecidableEq, Repr

/-- A JSON value. -/
inductive Json where
  | null
  | bool (b : Bool)
  | number (n : JsonNumber)
  | string (s : String)
  | array (items : List Json)
  | object (fields : List (String × Json))
  deriving Repr, Inhabited

namespace JsonNumber

/-- The number of a signed 64-bit integer. -/
def ofInt64 (n : Int64) : JsonNumber :=
  .integer (.ofInt64 n)

/-- The number of a double with a value. -/
def ofDouble? (x : Double) : Option JsonNumber :=
  (FiniteDouble.of? x).map .float

/-- The signed 64-bit integer that the number is written as, if it is one. -/
def int64? : JsonNumber → Option Int64
  | .integer n => int64Of? n.value
  | .float _ => none

/-- The double nearest to the number. -/
def toDouble : JsonNumber → Double
  | .integer n => Double.ofInt n.value
  | .float x => x.double

end JsonNumber

namespace Json

/-- The object of a list of pairs; of two pairs with one key the later counts. -/
def ofFields (pairs : List (String × Json)) : Json :=
  .object (Fields.ofList pairs)

/-- Whether the value is null. -/
def isNull : Json → Bool
  | .null => true
  | _ => false

end Json

end BoundSql
