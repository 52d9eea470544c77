import BoundSql.Value.Coerce

/-!
# Truth values

A value has a truth value when it is one, when it is an integer or a decimal,
which counts as true unless it is zero, or when it is a text or a JSON value
that denotes one of these. Null, floats, days, times and identifiers have none.
-/

namespace BoundSql

open BoundSql.Text

/-- The truth value of a JSON value. -/
def Json.truth? : Json → Option Bool
  | .bool b => some b
  | .number n => n.int64?.map (· != 0)
  | .string s => Value.boolOf? (trim s)
  | _ => none

namespace Value

/-- The truth value of a value. -/
def truth? : Value → Option Bool
  | .bool b => some b
  | .int n => some (n != 0)
  | .decimal d => some !d.isZero
  | .text s => boolOf? (trim s)
  | .json j => j.truth?
  | _ => none

theorem ofText_boolean_iff (s : String) (b : Bool) :
  ofText .boolean s = .ok (.bool b) ↔ boolOf? (trim s) = some b
  := by
  simp only [ofText, ofText?]
  cases boolOf? (trim s) with
  | none => simp
  | some c => simp

theorem coerce_boolean_iff (j : Json) (b : Bool) :
  coerce .boolean j = .ok (.bool b) ↔ j.truth? = some b
  := by
  cases j with
  | null => simp [coerce, Json.truth?]
  | string s => rw [coerce, Json.truth?, ofText_boolean_iff]
  | bool c => simp [coerce, moved, type?, Json.truth?]
  | number n =>
      cases hn : n.int64? with
      | none => simp [coerce, moved, move, type?, Json.truth?, hn]
      | some i => simp [coerce, moved, move, type?, Json.truth?, hn]
  | array items => simp [coerce, Json.truth?]
  | object fields => simp [coerce, Json.truth?]

/-- Only what has a truth value becomes one. -/
theorem convert_boolean_iff (v : Value) (b : Bool) :
  v.convert .boolean = .ok (.bool b) ↔ v.truth? = some b
  := by
  cases v with
  | text s => simp [convert, type?, truth?, ofText_boolean_iff]
  | json j => simp [convert, type?, truth?, coerce_boolean_iff]
  | _ => simp [convert, move, type?, truth?]
end Value

end BoundSql
