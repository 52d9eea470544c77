import BoundSql.Proofs.Binary.Integer
import BoundSql.Proofs.Wire.Cell

/-!
# Widening integers to doubles

A signed word becomes the double nearest to it when it is converted, when it is coerced
from a JSON integer, and when it is bound to a parameter of doubles. The double has the
value of the word exactly when some double has: when the word is a multiple of the
distance of the doubles about it. Else the word is replaced by a multiple next to it.
-/

namespace BoundSql

theorem Double.natAbs_toInt_lt (n : Int64) :
  n.toInt.natAbs < 2 ^ 64
  := by
  have hlow := n.le_toInt
  have hhigh := n.toInt_lt
  omega

namespace Value

/-- A word is sent to a parameter of doubles as the double nearest to it, and received as this
double. -/
theorem receive_send_float8 (n : Int64) :
  ∃ bytes, (Value.int n).send .float8 = .ok (some bytes)
    ∧ receive .float8 (some bytes) = .ok (.float (.ofInt n.toInt))
  := by
  have hsent : (Value.int n).send .float8
      = .ok (some (Wire.bigEndian 8 (Double.ofInt n.toInt).bits.toNat)) := rfl
  have hkeeps : WireType.float8.KeepsValues := trivial
  have hmicros : (Value.float (.ofInt n.toInt)).HasWholeMicros := trivial
  use Wire.bigEndian 8 (Double.ofInt n.toInt).bits.toNat, hsent
  apply receive_of_ofBytes? rfl
  apply ofBytes?_of_bytes hkeeps rfl hmicros rfl

/-- A word becomes the same double when it is converted, coerced from JSON and bound. Its value is
the multiple of the distance that the word is rounded to, at most half the distance off, and it is
the word exactly when some double has the word as its value. -/
theorem float_of_int_iff (n : Int64) :
  ∃ x : Double, convert .float (.int n) = .ok (.float x)
    ∧ coerce .float (.number (.ofInt64 n)) = .ok (.float x)
    ∧ (∃ bytes, (Value.int n).send .float8 = .ok (some bytes)
      ∧ receive .float8 (some bytes) = .ok (.float x))
    ∧ x.value? = some (Double.rounded n.toInt : Rat)
    ∧ 2 * |Double.rounded n.toInt - n.toInt| ≤ Double.spacing n.toInt
    ∧ (x.value? = some (n.toInt : Rat) ↔ (Double.spacing n.toInt : Int) ∣ n.toInt)
    ∧ (x.value? = some (n.toInt : Rat) ↔ ∃ y : Double, y.value? = some (n.toInt : Rat))
  := by
  have hvalue := Double.value?_ofInt (Double.natAbs_toInt_lt n)
  have hexact : (Double.ofInt n.toInt).value? = some (n.toInt : Rat)
      ↔ (Double.spacing n.toInt : Int) ∣ n.toInt := by
    rw [hvalue, Option.some.injEq, Int.cast_inj, Double.rounded_eq_iff]
  have hint : (JsonNumber.ofInt64 n).int64? = some n := int64Of?_toInt n
  use .ofInt n.toInt
  refine ⟨rfl, ?_, receive_send_float8 n, hvalue, Double.abs_rounded_sub n.toInt, hexact, ?_⟩
  · simp only [coerce, hint]
    rfl
  · rw [hexact, Double.exists_value?_iff (Double.natAbs_toInt_lt n)]

/-- The first integer that no double has is converted to the one before it. -/
theorem not_float_of_int :
  (Double.ofInt 9007199254740993).value? = some 9007199254740992
    ∧ ¬ ∀ (n : Int64) (x : Double), convert .float (.int n) = .ok (.float x) →
      x.value? = some (n.toInt : Rat)
  := by
  have hneighbour : (Double.ofInt 9007199254740993).value? = some 9007199254740992 := by
    decide +kernel
  use hneighbour
  intro h
  have hvalue := h 9007199254740993 (.ofInt 9007199254740993) rfl
  rw [hneighbour] at hvalue
  revert hvalue
  decide +kernel

end Value

end BoundSql
