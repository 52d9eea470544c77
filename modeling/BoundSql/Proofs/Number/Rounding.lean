import BoundSql.Number.Rounding
import Mathlib.Algebra.Group.Nat.Defs
import Mathlib.Tactic.ByContra
import Mathlib.Tactic.Use

/-!
# Rounded quotients

A quotient is rounded to itself when it is a natural number, and else to a natural
number between the same bounds.
-/

namespace BoundSql.Number

variable {base num den : Nat}

theorem scaled_neg_natCast (k : Nat) :
  scaled base num den (-k) = (num, den * base ^ k)
  := by
  cases k with
  | zero => simp [scaled]
  | succ k => rfl

theorem roundDiv_mul_eq_iff (tie : Tie) (hden : 0 < den) :
  roundDiv tie num den * den = num ↔ den ∣ num
  := by
  constructor
  · intro h
    use roundDiv tie num den
    rw [Nat.mul_comm, h]
  · intro h
    rw [roundDiv_of_dvd tie hden h, Nat.div_mul_cancel h]

/-- A number between two multiples of the denominator is rounded to a number between them. -/
theorem roundDiv_bounds (tie : Tie) (hden : 0 < den) {low high : Nat} (hlow : low * den ≤ num)
    (hhigh : num ≤ high * den) :
  low ≤ roundDiv tie num den ∧ roundDiv tie num den ≤ high
  := by
  obtain ⟨habove, hbelow⟩ := roundDiv_near tie num den hden
  constructor
  · by_contra hlt
    have hmul : (2 * roundDiv tie num den + 2) * den ≤ 2 * low * den :=
      Nat.mul_le_mul_right den (by omega)
    rw [Nat.add_mul] at habove hmul
    rw [Nat.mul_assoc 2 low] at hmul
    omega
  · by_contra hlt
    have hmul : (2 * high + 2) * den ≤ 2 * roundDiv tie num den * den :=
      Nat.mul_le_mul_right den (by omega)
    rw [Nat.add_mul, Nat.mul_assoc 2 high] at hmul
    omega

end BoundSql.Number
