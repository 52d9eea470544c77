import BoundSql.Json.Basic

/-!
# Records in JSON

A record is written as an object with its fields by name or as an array with
its fields in order. Fields that the record does not know are ignored in an
object, and an array may be shorter than the record but not longer. A choice
is written as its name, or as an object with its name alone and null.
-/

namespace BoundSql

/-- The fields of a record by name. -/
abbrev Record := String → Option Json

namespace Json

/-- The fields of a record whose names are given in order. -/
def record? (names : List String) : Json → Option Record
  | .object fields => some (Fields.find? fields)
  | .array items =>
    if items.length ≤ names.length then some fun name => items[names.idxOf name]? else none
  | _ => none

/-- The string that a value is. -/
def asString? : Json → Option String
  | .string s => some s
  | _ => none

/-- The truth value that a value is. -/
def asBool? : Json → Option Bool
  | .bool b => some b
  | _ => none

/-- The integer that a value is written as. -/
def asInt? : Json → Option Int
  | .number (.integer n) => some n.value
  | _ => none

/-- The signed 64-bit integer that a value is written as. -/
def asInt64? (v : Json) : Option Int64 :=
  v.asInt?.bind int64Of?

/-- The signed 32-bit integer that a value is written as. -/
def asInt32? (v : Json) : Option Int32 :=
  v.asInt?.bind fun n =>
    if Int32.minValue.toInt ≤ n ∧ n ≤ Int32.maxValue.toInt then some (Int32.ofInt n) else none

/-- The items of an array, each read as it should be. -/
def asList? {α : Type} (item : Json → Option α) : Json → Option (List α)
  | .array items => items.mapM item
  | _ => none

/-- The fields of an object. -/
def asFields? : Json → Option (List (String × Json))
  | .object fields => some fields
  | _ => none

/-- The name of a choice. -/
def asChoice? : Json → Option String
  | .string s => some s
  | .object [(name, .null)] => some name
  | _ => none

/-- A value that null leaves out. -/
def asOptional? {α : Type} (item : Json → Option α) : Json → Option (Option α)
  | .null => some none
  | v => (item v).map some

end Json

namespace Record

/-- A field that has to be there. -/
def required {α : Type} (r : Record) (name : String) (item : Json → Option α) : Option α :=
  (r name).bind item

/-- A field that stands for a fixed value when it is not there. -/
def withDefault {α : Type} (r : Record) (name : String) (default : α) (item : Json → Option α) :
    Option α :=
  match r name with
  | none => some default
  | some v => item v

/-- A field that may be missing or null. -/
def optional {α : Type} (r : Record) (name : String) (item : Json → Option α) :
    Option (Option α) :=
  r.withDefault name none (Json.asOptional? item)

end Record

end BoundSql
