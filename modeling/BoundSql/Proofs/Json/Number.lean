import BoundSql.Json.Basic
import BoundSql.Proofs.Binary.Double

/-!
# Values of JSON numbers

A JSON number has an exact value. An integer below `2 ^ 63` is a signed word. The
other integers are those of 64 bits without a sign, and the double nearest to one
of them is the multiple of 2048 that it is rounded to.
-/

namespace BoundSql

open BoundSql.Number

variable {n : WordInt}

/-- The signed word of an integer that is one. -/
theorem WordInt.exists_int64Of? (h : n.value < 2 ^ 63) :
  ∃ i : Int64, int64Of? n.value = some i ∧ i.toInt = n.value
  := by
  have hmax := Int64.toInt_maxValue
  have hfits : Int64.minValue.toInt ≤ n.value ∧ n.value ≤ Int64.maxValue.toInt :=
    ⟨n.min_le, by omega⟩
  have hword : int64Of? n.value = some (Int64.ofInt n.value) := if_pos hfits
  use Int64.ofInt n.value, hword, toInt_of_int64Of? hword

/-- An integer without a sign has 64 bits. -/
theorem WordInt.exists_natCast (h : 2 ^ 63 ≤ n.value) :
  ∃ k : Nat, n.value = k ∧ 2 ^ 63 ≤ k ∧ k < 2 ^ 64
  := by
  have hlt : n.value < (2 ^ 64 : Nat) := n.lt_max
  use n.value.toNat
  omega

/-- The multiple of 2048 that an integer without a sign is rounded to. -/
def WordInt.rounded (n : WordInt) : Nat :=
  roundDiv .toEven n.value.toNat 2048 * 2048

theorem WordInt.rounded_eq_iff (h : 2 ^ 63 ≤ n.value) :
  (n.rounded : Int) = n.value ↔ 2048 ∣ n.value
  := by
  obtain ⟨k, hk, _⟩ := exists_natCast h
  rw [rounded, hk, Int.toNat_natCast, Int.natCast_inj, roundDiv_mul_eq_iff _ (by decide)]
  omega

/-- A large integer is rounded to a large one. -/
theorem WordInt.le_rounded (h : 2 ^ 63 ≤ n.value) :
  2 ^ 63 ≤ n.rounded
  := by
  obtain ⟨k, hk, hbounds⟩ := exists_natCast h
  have hround : 2 ^ 52 ≤ roundDiv .toEven k 2048 :=
    (Double.roundDiv_of_binade (k := 11) hbounds).1
  rw [rounded, hk, Int.toNat_natCast]
  omega

namespace JsonNumber

/-- The exact value of a number. -/
def value : JsonNumber → Rat
  | .integer n => n.value
  | .float x => x.double.value?.getD 0

theorem int64?_integer_of_le (h : 2 ^ 63 ≤ n.value) :
  (integer n).int64? = none
  := by
  have hmax := Int64.toInt_maxValue
  apply if_neg
  omega

/-- The double nearest to an integer without a sign is positive, and its value is the multiple of
2048 that the integer is rounded to. -/
theorem reading_toDouble (h : 2 ^ 63 ≤ n.value) :
  ∃ m q : Nat, m ≠ 0 ∧ (integer n).toDouble.reading = .finite false m q ∧ m * 2 ^ q = n.rounded
  := by
  obtain ⟨k, hk, hbounds⟩ := WordInt.exists_natCast h
  obtain ⟨m, q, hreading, hmul⟩ := Double.reading_ofInt_of_binade (k := 11) hbounds (by decide)
  have hunit : 2 ^ 11 = 2048 := by decide
  rw [hunit] at hmul
  have hrounded : m * 2 ^ q = n.rounded := by rw [hmul, WordInt.rounded, hk, Int.toNat_natCast]
  use m, q
  refine ⟨?_, by rw [toDouble, hk, hreading], hrounded⟩
  rintro rfl
  have hlarge := WordInt.le_rounded h
  omega

theorem value?_toDouble (h : 2 ^ 63 ≤ n.value) :
  (integer n).toDouble.value? = some ((n.rounded : Nat) : Rat)
  := by
  obtain ⟨m, q, _, hreading, hmul⟩ := reading_toDouble h
  rw [Double.value?_of_reading hreading, hmul]

theorem isFinite_toDouble (h : 2 ^ 63 ≤ n.value) :
  (integer n).toDouble.isFinite = true
  := by
  obtain ⟨m, q, _, hreading, _⟩ := reading_toDouble h
  apply Double.isFinite_of_reading hreading

/-- The double nearest to an integer without a sign is a number of JSON. -/
theorem exists_ofDouble?_toDouble (h : 2 ^ 63 ≤ n.value) :
  ∃ m, ofDouble? (integer n).toDouble = some m ∧ m.value = (n.rounded : Rat)
  := by
  use .float ⟨_, isFinite_toDouble h⟩
  constructor
  · rw [ofDouble?, FiniteDouble.of?, dif_pos (isFinite_toDouble h)]
    rfl
  · rw [value, value?_toDouble h]
    rfl

end JsonNumber

end BoundSql
