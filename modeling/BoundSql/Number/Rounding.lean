/-!
# Rounding a quotient

A quotient of natural numbers is rounded to the nearest natural number. Only
an exact half leaves a choice, which the tie rule makes.
-/

namespace BoundSql.Number

/-- Where an exact half goes. -/
inductive Tie where
  | toEven
  | up
  deriving DecidableEq, Repr

/-- The natural number nearest to `num / den`. -/
def roundDiv (tie : Tie) (num den : Nat) : Nat :=
  let q := num / den
  let twice := 2 * (num % den)
  if twice < den then q
  else if den < twice then q + 1
  else match tie with
    | .toEven => q + q % 2
    | .up => q + 1

/-- The quotient `num / den` times a power of the base, again as a quotient. -/
def scaled (base : Nat) (num den : Nat) : Int → Nat × Nat
  | .ofNat k => (num * base.pow k, den)
  | .negSucc k => (num, den * base.pow (k + 1))

theorem roundDiv_of_dvd (tie : Tie) {num den : Nat} (hd : 0 < den) (h : den ∣ num) :
  roundDiv tie num den = num / den
  := by
  have hm : num % den = 0 := Nat.mod_eq_zero_of_dvd h
  simp [roundDiv, hm, hd]

/-- A quotient is rounded down when the rest is at most half of the divisor, or up when it is at
least half of it. -/
theorem roundDiv_cases (tie : Tie) (num den : Nat) :
  roundDiv tie num den = num / den ∧ 2 * (num % den) ≤ den
    ∨ roundDiv tie num den = num / den + 1 ∧ den ≤ 2 * (num % den)
  := by
  simp only [roundDiv]
  split
  · left
    refine ⟨rfl, by omega⟩
  · split
    · right
      refine ⟨rfl, by omega⟩
    · cases tie with
      | up =>
          right
          refine ⟨rfl, by omega⟩
      | toEven =>
          rcases Nat.mod_two_eq_zero_or_one (num / den) with h | h
          · left
            refine ⟨by simp [h], by omega⟩
          · right
            refine ⟨by simp [h], by omega⟩

/-- The rounded quotient is within half a unit of the exact one. -/
theorem roundDiv_near (tie : Tie) (num den : Nat) (hd : 0 < den) :
  2 * num ≤ (2 * roundDiv tie num den + 1) * den
    ∧ 2 * roundDiv tie num den * den ≤ 2 * num + den
  := by
  have hn : den * (num / den) + num % den = num := Nat.div_add_mod num den
  have hr : num % den < den := Nat.mod_lt num hd
  have hle : 2 * (den * (num / den)) ≤ 2 * num := by omega
  have hlow : (2 * (num / den) + 1) * den = 2 * (den * (num / den)) + den := by
    rw [Nat.add_mul, Nat.one_mul, Nat.mul_assoc, Nat.mul_comm (num / den)]
  have hlow' : (2 * (num / den + 1) + 1) * den = 2 * (den * (num / den)) + 3 * den := by
    rw [Nat.add_mul, Nat.one_mul, Nat.mul_assoc, Nat.mul_comm (num / den + 1), Nat.mul_add]
    omega
  have hhigh : 2 * (num / den) * den = 2 * (den * (num / den)) := by
    rw [Nat.mul_assoc, Nat.mul_comm (num / den)]
  have hhigh' : 2 * (num / den + 1) * den = 2 * (den * (num / den)) + 2 * den := by
    rw [Nat.mul_assoc, Nat.mul_comm (num / den + 1), Nat.mul_add]
    omega
  rcases roundDiv_cases tie num den with ⟨h, hc⟩ | ⟨h, hc⟩
  · rw [h]
    omega
  · rw [h]
    omega

end BoundSql.Number
