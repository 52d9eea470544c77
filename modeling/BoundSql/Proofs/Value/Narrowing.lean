import BoundSql.Proofs.Binary.Integer
import BoundSql.Proofs.Decimal.Shift
import BoundSql.Proofs.Value.Number

/-!
# Narrowing to integers

A double or a decimal is converted to an integer only if it is one. The cast of a
double neither cuts nor saturates below the bound at which doubles are refused, and
the doubles below the bound stand for one integer each. So an integer comes back from a
decimal always, and from a double as itself or not at all.
-/

namespace BoundSql

/-! ### Doubles -/

namespace Double

variable {x : Double}

/-- The cast of a double that is a signed word neither cuts nor saturates. -/
theorem toInt_castInt64 {n : Int} (h : x.value? = some (n : Rat))
    (hlow : Int64.minValue.toInt ≤ n) (hhigh : n ≤ Int64.maxValue.toInt) :
  x.castInt64.toInt = n
  := by
  rw [castInt64, h]
  simp only [Rat.num_intCast, Rat.den_intCast, Nat.cast_one, Int.tdiv_one]
  apply toInt_nearestInt64 hlow hhigh

theorem isWhole_and_isBelow_iff {bound : Nat} :
  (x.isWhole && x.isBelow bound) = true
    ↔ ∃ n : Int, x.value? = some (n : Rat) ∧ n.natAbs < bound
  := by
  rw [isWhole, isBelow]
  cases x.value? with
  | none => simp
  | some r =>
      simp only [Option.any_some, Bool.and_eq_true, decide_eq_true_eq, Option.some.injEq]
      constructor
      · rintro ⟨hden, hbelow⟩
        rw [hden, Nat.mul_one] at hbelow
        use r.num, (Rat.coe_int_num_of_den_eq_one hden).symm
      · rintro ⟨n, rfl, hbelow⟩
        rw [Rat.num_intCast, Rat.den_intCast, Nat.mul_one]
        use rfl

/-- A double is taken as the integer that it is below the bound. -/
theorem toInt64?_eq_some_iff {n : Int64} :
  x.toInt64? = some n ↔ x.value? = some (n.toInt : Rat) ∧ n.toInt.natAbs < wordBound
  := by
  have hbound : wordBound = 9000000000000000 := rfl
  have hmin := Int64.toInt_minValue
  have hmax := Int64.toInt_maxValue
  constructor
  · intro h
    rw [toInt64?] at h
    split at h
    · next hguard =>
        obtain ⟨k, hvalue, hbelow⟩ := isWhole_and_isBelow_iff.mp hguard
        have hcast := toInt_castInt64 hvalue (by omega) (by omega)
        obtain rfl := Option.some.inj h
        rw [hcast]
        use hvalue
    · contradiction
  · rintro ⟨hvalue, hbelow⟩
    have hguard := isWhole_and_isBelow_iff.mpr ⟨n.toInt, hvalue, hbelow⟩
    have hcast := toInt_castInt64 hvalue n.minValue_le_toInt n.toInt_le
    rw [toInt64?, if_pos hguard, Int64.toInt_inj.mp hcast]

/-- The double nearest to an integer is converted to it below the bound, and refused from there
on. -/
theorem toInt64?_ofInt (n : Int64) :
  (ofInt n.toInt).toInt64? = if n.toInt.natAbs < wordBound then some n else none
  := by
  have hbound : wordBound = 9000000000000000 := rfl
  have hlow := n.le_toInt
  have hhigh := n.toInt_lt
  have hvalue : (ofInt n.toInt).value? = some (rounded n.toInt : Rat) := value?_ofInt (by omega)
  split
  · next hbelow =>
      rw [toInt64?_eq_some_iff, hvalue, rounded_of_lt (by omega)]
      use rfl
  · next habove =>
      rw [Option.eq_none_iff_forall_ne_some]
      intro k hk
      obtain ⟨hrounded, hbelow⟩ := toInt64?_eq_some_iff.mp hk
      rw [hvalue, Option.some.injEq, Int.cast_inj] at hrounded
      -- the bound lies below the integers that are rounded
      rcases Nat.lt_or_ge n.toInt.natAbs (2 ^ 53) with hsmall | hlarge
      · rw [rounded_of_lt hsmall] at hrounded
        rw [hrounded] at habove
        contradiction
      · have hfar := le_natAbs_rounded hlarge
        rw [hrounded] at hfar
        omega

end Double

/-! ### Decimals -/

namespace Decimal

theorem isWhole_iff (d : Decimal) :
  d.isWhole = true ↔ d.value.den = 1
  := by
  have hden : d.value.den = ((d.mantissa : Rat) / (10 ^ d.scale : Nat)).den := by
    rw [value_eq, Text.signed, Nat.cast_pow, Nat.cast_ofNat]
    split
    · apply Rat.neg_den
    · rfl
  have hunit : 10 ^ d.scale ≠ 0 := (Nat.pow_pos (by decide)).ne'
  rw [hden, Rat.den_div_natCast_eq_one_iff _ _ hunit, isWhole, decide_eq_true_eq, Nat.pow_eq,
    Nat.dvd_iff_mod_eq_zero]

/-- A decimal that has the value of a signed word is converted to it. -/
theorem toInt64?_eq_some_iff {d : Decimal} {n : Int64} :
  d.toInt64? = some n ↔ d.value = n.toInt
  := by
  constructor
  · intro h
    apply (value_of_toInt64? h).1
  · intro h
    have hwhole : d.isWhole = true := by rw [isWhole_iff, h, Rat.den_intCast]
    have hpart : d.wholePart = n.toInt := by
      have hvalue := value_of_isWhole hwhole
      rw [h] at hvalue
      exact_mod_cast hvalue.symm
    rw [toInt64?, if_pos hwhole, hpart, int64Of?_toInt]

theorem value_ofInt64 (n : Int64) :
  (ofInt64 n).value = n.toInt
  := value_ofInt n.toInt (ofInt64 n).mantissa_lt

end Decimal

namespace Value

variable {n : Int64}

theorem convert_integer_float (x : Double) :
  convert .integer (.float x)
    = match x.toInt64? with
      | some n => .ok (.int n)
      | none => .error ⟨.integer, .value (.float x)⟩
  := rfl

theorem convert_integer_float_iff (x : Double) :
  convert .integer (.float x) = .ok (.int n) ↔ x.toInt64? = some n
  := by
  rw [convert_integer_float]
  split
  · next hword => simp [hword]
  · next hnone => simp [hnone]

theorem convert_integer_decimal_iff (d : Decimal) :
  convert .integer (.decimal d) = .ok (.int n) ↔ d.toInt64? = some n
  := by
  have hmove : convert .integer (.decimal d) = move .integer (.decimal d) := rfl
  rw [hmove, move, Decimal.toInt64?]
  split
  · split
    · next hword => simp [hword]
    · next hnone => simp [hnone]
  · simp

/-- A double is converted to an integer exactly when it is one below the bound, and a decimal
exactly when it is one that is a signed word. Through a decimal an integer comes back, and through a
double it comes back below the bound and is refused from there on. -/
theorem convert_integer_iff :
  (∀ (x : Double) (n : Int64), convert .integer (.float x) = .ok (.int n)
      ↔ x.isFinite = true ∧ x.value? = some (n.toInt : Rat) ∧ n.toInt.natAbs < Double.wordBound)
    ∧ (∀ (d : Decimal) (n : Int),
      (∃ i : Int64, i.toInt = n ∧ convert .integer (.decimal d) = .ok (.int i))
        ↔ d.value = n ∧ -2 ^ 63 ≤ n ∧ n < 2 ^ 63)
    ∧ (∀ n : Int64, (convert .decimal (.int n)).bind (convert .integer) = .ok (.int n))
    ∧ ∀ n : Int64, (convert .float (.int n)).bind (convert .integer)
      = if n.toInt.natAbs < Double.wordBound then .ok (.int n)
        else .error ⟨.integer, .value (.float (.ofInt n.toInt))⟩
  := by
  refine ⟨?_, ?_, ?_, ?_⟩
  · intro x n
    rw [convert_integer_float_iff, Double.toInt64?_eq_some_iff, iff_and_self]
    rintro ⟨hvalue, -⟩
    apply Double.isFinite_of_value? hvalue
  · intro d n
    simp only [convert_integer_decimal_iff, Decimal.toInt64?_eq_some_iff]
    constructor
    · rintro ⟨i, rfl, hvalue⟩
      use hvalue, i.le_toInt, i.toInt_lt
    · rintro ⟨hvalue, hlow, hhigh⟩
      have hword := Int64.toInt_ofInt_of_le hlow hhigh
      use .ofInt n, hword
      rw [hword, hvalue]
  · intro n
    show convert .integer (.decimal (.ofInt64 n)) = .ok (.int n)
    rw [convert_integer_decimal_iff, Decimal.toInt64?_eq_some_iff, Decimal.value_ofInt64]
  · intro n
    show convert .integer (.float (.ofInt n.toInt)) = _
    rw [convert_integer_float, Double.toInt64?_ofInt]
    by_cases hbelow : n.toInt.natAbs < Double.wordBound
    · rw [if_pos hbelow, if_pos hbelow]
    · rw [if_neg hbelow, if_neg hbelow]

end Value

end BoundSql
