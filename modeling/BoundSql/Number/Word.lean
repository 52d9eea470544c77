/-!
# Integers of 64 bits

A signed word has 64 bits. A word integer fits into 64 bits with a sign or
without one.
-/

namespace BoundSql

/-- The signed 64-bit integer that an integer is, if it is one. -/
def int64Of? (n : Int) : Option Int64 :=
  if Int64.minValue.toInt ≤ n ∧ n ≤ Int64.maxValue.toInt then some (Int64.ofInt n) else none

/-- The signed 64-bit integer nearest to an integer. -/
def nearestInt64 (n : Int) : Int64 :=
  Int64.ofInt (max Int64.minValue.toInt (min n Int64.maxValue.toInt))

/-- An integer that fits into 64 bits, with or without a sign. -/
structure WordInt where
  value : Int
  min_le : Int64.minValue.toInt ≤ value
  lt_max : value < UInt64.size
  deriving DecidableEq, Repr

/-- The integer of 64 bits that an integer is, if it is one. -/
def WordInt.ofInt? (n : Int) : Option WordInt :=
  if h : Int64.minValue.toInt ≤ n ∧ n < UInt64.size then some ⟨n, h.1, h.2⟩ else none

/-- A signed 64-bit integer as one of 64 bits. -/
def WordInt.ofInt64 (n : Int64) : WordInt :=
  ⟨n.toInt, Int64.le_toInt n, by have := Int64.toInt_lt n; simp only [UInt64.size]; omega⟩

theorem toInt_of_int64Of? {n : Int} {w : Int64} (h : int64Of? n = some w) :
  w.toInt = n
  := by
  have hmin := Int64.toInt_minValue
  have hmax := Int64.toInt_maxValue
  simp only [int64Of?, hmin, hmax] at h
  split at h
  · obtain rfl := Option.some.inj h
    rw [Int64.toInt_ofInt_of_le]
    · omega
    · omega
  · contradiction

theorem int64Of?_toInt (w : Int64) :
  int64Of? w.toInt = some w
  := by
  rw [int64Of?, if_pos ⟨Int64.minValue_le_toInt w, Int64.toInt_le w⟩, Int64.ofInt_toInt]

theorem toInt_nearestInt64 {n : Int} (hlow : Int64.minValue.toInt ≤ n)
    (hhigh : n ≤ Int64.maxValue.toInt) :
  (nearestInt64 n).toInt = n
  := by
  have hmin := Int64.toInt_minValue
  have hmax := Int64.toInt_maxValue
  have hclamped : max Int64.minValue.toInt (min n Int64.maxValue.toInt) = n := by omega
  rw [nearestInt64, hclamped, Int64.toInt_ofInt_of_le]
  · omega
  · omega

end BoundSql
