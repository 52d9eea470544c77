import BoundSql.Proofs.Binary.Double
import Mathlib.Algebra.Order.Field.Power
import Mathlib.Data.Rat.Cast.Order
import Mathlib.Tactic.Linarith
import Mathlib.Tactic.Positivity

/-!
# Doubles of integers

About an integer the doubles that are integers stand at a distance, which is one below
`2 ^ 53` and a power of two beyond. The double nearest to an integer is the multiple of
the distance that the integer is rounded to. A double has the value of an integer only
if the integer is such a multiple.
-/

namespace BoundSql

open BoundSql.Binary BoundSql.Number

/-! ### Values -/

/-- A reading with the opposite sign. -/
def Binary.Reading.negated : Reading → Reading
  | .nan => .nan
  | .infinite negative => .infinite !negative
  | .finite negative m q => .finite (!negative) m q

namespace Double

/-- The sign bit changes the sign alone. -/
theorem read_signBit_add {word : Nat} (h : word < 2 ^ 63) :
  double.read (2 ^ 63 + word) = (double.read word).negated
  := by
  have hfield : (2 ^ 63 + word) / Nat.pow 2 double.fractionBits % Nat.pow 2 double.exponentBits
      = word / Nat.pow 2 double.fractionBits % Nat.pow 2 double.exponentBits := by
    show (2 ^ 63 + word) / 2 ^ 52 % 2 ^ 11 = word / 2 ^ 52 % 2 ^ 11
    omega
  have hfraction : (2 ^ 63 + word) % Nat.pow 2 double.fractionBits
      = word % Nat.pow 2 double.fractionBits := by
    show (2 ^ 63 + word) % 2 ^ 52 = word % 2 ^ 52
    omega
  have hset : double.signBit ≤ 2 ^ 63 + word := Nat.le_add_right _ _
  have hunset : ¬ double.signBit ≤ word := Nat.not_le.mpr h
  simp only [Format.read, hfield, hfraction, decide_eq_true hset, decide_eq_false hunset]
  split
  · split
    · rfl
    · rfl
  · split
    · rfl
    · rfl

theorem reading_ofMagnitude {magnitude : Nat} (h : magnitude < 2 ^ 63) :
  (ofMagnitude true magnitude).reading = (ofMagnitude false magnitude).reading.negated
  := by
  have hset : (ofMagnitude true magnitude).bits.toNat = 2 ^ 63 + magnitude := by
    show (2 ^ 63 + magnitude) % 2 ^ 64 = 2 ^ 63 + magnitude
    omega
  have hunset : (ofMagnitude false magnitude).bits.toNat = magnitude := by
    show magnitude % 2 ^ 64 = magnitude
    omega
  rw [reading, reading, hset, hunset, read_signBit_add h]

theorem exists_finite_of_value? {x : Double} {r : Rat} (h : x.value? = some r) :
  ∃ negative m q, x.reading = .finite negative m q
  := by
  rw [value?] at h
  split at h
  · next negative m q hreading => use negative, m, q
  · contradiction

theorem isFinite_of_value? {x : Double} {r : Rat} (h : x.value? = some r) :
  x.isFinite = true
  := by
  obtain ⟨negative, m, q, hreading⟩ := exists_finite_of_value? h
  apply isFinite_of_reading hreading

/-- A double has 53 bits for its coefficient. -/
theorem coefficient_lt {x : Double} {negative : Bool} {m : Nat} {q : Int}
    (h : x.reading = .finite negative m q) :
  m < 2 ^ 53
  := by
  have hfraction : x.bits.toNat % Nat.pow 2 double.fractionBits < 2 ^ 52 :=
    Nat.mod_lt _ (by decide)
  have hunit : Nat.pow 2 double.fractionBits = 2 ^ 52 := rfl
  simp only [reading, Format.read] at h
  split at h
  · split at h
    · contradiction
    · contradiction
  · split at h
    · obtain ⟨-, hm, -⟩ := Reading.finite.inj h
      omega
    · obtain ⟨-, hm, -⟩ := Reading.finite.inj h
      omega

theorem value?_ofMagnitude {magnitude : Nat} {r : Rat} (h : magnitude < 2 ^ 63)
    (hvalue : (ofMagnitude false magnitude).value? = some r) :
  (ofMagnitude true magnitude).value? = some (-r)
  := by
  obtain ⟨negative, m, q, hreading⟩ := exists_finite_of_value? hvalue
  have hopposite : (ofMagnitude true magnitude).reading = .finite (!negative) m q := by
    rw [reading_ofMagnitude h, hreading]
    rfl
  rw [value?_of_finite hreading] at hvalue
  obtain rfl := Option.some.inj hvalue
  rw [value?_of_finite hopposite, ← neg_mul]
  cases negative with
  | true => simp
  | false => simp

/-! ### Small integers -/

/-- An integer below `2 ^ 53` fills the coefficient when it is moved to the left. -/
theorem coefficient_of_lt {n : Nat} (hpos : n ≠ 0) (h : n < 2 ^ 53) :
  2 ^ 52 ≤ n * 2 ^ (52 - n.log2) ∧ n * 2 ^ (52 - n.log2) < 2 ^ 53
  := by
  have hlog : n.log2 < 53 := (Nat.log2_lt hpos).mpr h
  constructor
  · calc
      2 ^ 52 = 2 ^ n.log2 * 2 ^ (52 - n.log2) := by rw [← Nat.pow_add]; congr 1; omega
      _ ≤ n * 2 ^ (52 - n.log2) := Nat.mul_le_mul_right _ (Nat.log2_self_le hpos)
  · calc
      n * 2 ^ (52 - n.log2) < 2 ^ (n.log2 + 1) * 2 ^ (52 - n.log2) :=
        Nat.mul_lt_mul_of_pos_right Nat.lt_log2_self (Nat.two_pow_pos _)
      _ = 2 ^ 53 := by rw [← Nat.pow_add]; congr 1; omega

/-- The last bit that a double has room for stands behind the point of an integer below
`2 ^ 53`. -/
theorem placeOf_of_lt {n : Nat} (hpos : n ≠ 0) (h : n < 2 ^ 53) :
  double.placeOf n 1 = -(52 - n.log2 : Nat)
  := by
  have hlog : n.log2 < 53 := (Nat.log2_lt hpos).mpr h
  have hguess : max ((n.log2 : Int) - Nat.log2 1 - double.fractionBits - 1) double.minPower
      = -(53 - n.log2 : Nat) := by
    show max ((n.log2 : Int) - 0 - 52 - 1) (-1074) = -(53 - n.log2 : Nat)
    omega
  have hshift : n * 2 ^ (53 - n.log2) = n * 2 ^ (52 - n.log2) * 2 := by
    rw [Nat.mul_assoc, ← Nat.pow_succ, show (52 - n.log2).succ = 53 - n.log2 by omega]
  have htop : Nat.pow 2 (double.fractionBits + 1) ≤ n * Nat.pow 2 (53 - n.log2) / 1 := by
    have hfull := (coefficient_of_lt hpos h).1
    rw [Nat.div_one]
    show 2 ^ 53 ≤ n * 2 ^ (53 - n.log2)
    rw [hshift]
    omega
  simp only [Format.placeOf, hguess, Int.neg_neg, scaled, if_pos htop]
  omega

/-- The word nearest to an integer below `2 ^ 53`. -/
theorem nearest_of_lt {n : Nat} (hpos : n ≠ 0) (h : n < 2 ^ 53) :
  double.nearest n 1 = n * 2 ^ (52 - n.log2) + (n.log2 + 1022) * 2 ^ 52
  := by
  have hlog : n.log2 < 53 := (Nat.log2_lt hpos).mpr h
  have hround : roundDiv .toEven (n * 2 ^ (52 - n.log2)) 1 = n * 2 ^ (52 - n.log2) := by
    rw [roundDiv_of_dvd .toEven Nat.one_pos (Nat.one_dvd _), Nat.div_one]
  have hplace : (-(52 - n.log2 : Nat) - double.minPower).toNat = n.log2 + 1022 := by
    show (-(52 - n.log2 : Nat) - -1074 : Int).toNat = n.log2 + 1022
    omega
  have hroom : n * 2 ^ (52 - n.log2) + (n.log2 + 1022) * 2 ^ 52 ≤ double.infinity := by
    have hfull := (coefficient_of_lt hpos h).2
    show n * 2 ^ (52 - n.log2) + (n.log2 + 1022) * 2 ^ 52 ≤ 2047 * 2 ^ 52
    omega
  simp only [Format.nearest, if_neg hpos, placeOf_of_lt hpos h, Int.neg_neg, scaled, Nat.pow_eq,
    hround, hplace]
  apply Nat.min_eq_left hroom

/-- An integer below `2 ^ 53` is the double nearest to it. -/
theorem value?_ofInt_of_lt {n : Nat} (h : n < 2 ^ 53) :
  (ofInt n).value? = some (n : Rat)
  := by
  by_cases hpos : n = 0
  · have hreading : (ofInt 0).reading = .finite false 0 (-1074) := by decide
    rw [hpos, Nat.cast_zero, Nat.cast_zero, value?_of_finite hreading, if_neg Bool.false_ne_true,
      Nat.cast_zero, zero_mul]
  have hlog : n.log2 < 53 := (Nat.log2_lt hpos).mpr h
  have hfull := coefficient_of_lt hpos h
  have hbits : (ofInt n).bits.toNat = n * 2 ^ (52 - n.log2) + (n.log2 + 1022) * 2 ^ 52 := by
    rw [bits_ofInt, nearest_of_lt hpos h]
    omega
  have hpower : ((n.log2 + 1022 : Nat) : Int) - 1074 = -(52 - n.log2 : Nat) := by omega
  have hreading : (ofInt n).reading
      = .finite false (n * 2 ^ (52 - n.log2)) (-(52 - n.log2 : Nat)) := by
    rw [reading, hbits, read_of_normal hfull (by omega), hpower]
  rw [value?_of_finite hreading, zpow_neg, zpow_natCast, Nat.cast_mul, Nat.cast_pow,
    Nat.cast_ofNat, if_neg Bool.false_ne_true, mul_assoc, mul_inv_cancel₀ (by positivity), mul_one]

/-! ### The integer that an integer is rounded to -/

/-- The distance of the doubles about an integer, as far as they are integers. -/
def spacing (n : Int) : Nat :=
  2 ^ (n.natAbs.log2 - 52)

/-- The multiple of the distance that an integer is rounded to, a half going to the even one. -/
def rounded (n : Int) : Int :=
  n.sign * (roundDiv .toEven n.natAbs (spacing n) * spacing n : Nat)

theorem spacing_pos (n : Int) :
  0 < spacing n
  := Nat.two_pow_pos _

theorem spacing_of_lt {n : Int} (h : n.natAbs < 2 ^ 53) :
  spacing n = 1
  := by
  have hlog : n.natAbs.log2 < 53 := by
    by_cases hpos : n.natAbs = 0
    · rw [hpos]
      decide
    · exact (Nat.log2_lt hpos).mpr h
  rw [spacing, Nat.sub_eq_zero_of_le (by omega), Nat.pow_zero]

theorem natAbs_rounded (n : Int) :
  (rounded n).natAbs = roundDiv .toEven n.natAbs (spacing n) * spacing n
  := by
  rw [rounded, Int.natAbs_mul, Int.natAbs_natCast]
  rcases eq_or_ne n 0 with rfl | hne
  · decide
  · rw [Int.natAbs_sign_of_ne_zero hne, Nat.one_mul]

/-- An integer is rounded to itself exactly when it is a multiple of the distance. -/
theorem rounded_eq_iff (n : Int) :
  rounded n = n ↔ (spacing n : Int) ∣ n
  := by
  rw [Int.natCast_dvd, ← roundDiv_mul_eq_iff .toEven (spacing_pos n), ← natAbs_rounded]
  constructor
  · intro h
    rw [h]
  · intro h
    rw [natAbs_rounded] at h
    rw [rounded, h, Int.sign_mul_natAbs]

/-- An integer is rounded by at most half the distance. -/
theorem abs_rounded_sub (n : Int) :
  2 * |rounded n - n| ≤ spacing n
  := by
  obtain ⟨habove, hbelow⟩ := roundDiv_near .toEven n.natAbs (spacing n) (spacing_pos n)
  rw [Nat.add_mul, Nat.mul_assoc] at habove
  rw [Nat.mul_assoc] at hbelow
  have hrounded : rounded n = n.sign * (rounded n).natAbs := by rw [natAbs_rounded, rounded]
  have hsub : |rounded n - n| = |((rounded n).natAbs : Int) - n.natAbs| := by
    rcases eq_or_ne n 0 with rfl | hne
    · decide
    · calc
        |rounded n - n| = |n.sign * ((rounded n).natAbs - n.natAbs)| := by
          rw [mul_sub, ← hrounded, Int.sign_mul_natAbs]
        _ = |((rounded n).natAbs : Int) - n.natAbs| := by
          rw [abs_mul, Int.abs_sign_of_ne_zero hne, one_mul]
  rw [hsub, natAbs_rounded, ← Int.natCast_natAbs]
  omega

theorem rounded_of_lt {n : Int} (h : n.natAbs < 2 ^ 53) :
  rounded n = n
  := by
  rw [rounded_eq_iff, spacing_of_lt h, Nat.cast_one]
  apply one_dvd

/-- An integer of more than 53 bits in units of the distance. -/
theorem exists_binade {n : Int} (h : 2 ^ 53 ≤ n.natAbs) :
  ∃ k, 1 ≤ k ∧ n.natAbs.log2 - 52 = k ∧ 2 ^ (52 + k) ≤ n.natAbs ∧ n.natAbs < 2 ^ (53 + k)
  := by
  have hpos : n.natAbs ≠ 0 := by omega
  have hlog : 53 ≤ n.natAbs.log2 := (Nat.le_log2 hpos).mpr h
  use n.natAbs.log2 - 52
  refine ⟨by omega, rfl, ?_, ?_⟩
  · rw [show 52 + (n.natAbs.log2 - 52) = n.natAbs.log2 by omega]
    apply Nat.log2_self_le hpos
  · rw [show 53 + (n.natAbs.log2 - 52) = n.natAbs.log2 + 1 by omega]
    apply Nat.lt_log2_self

/-- An integer from `2 ^ 53` on is rounded to such an integer. -/
theorem le_natAbs_rounded {n : Int} (h : 2 ^ 53 ≤ n.natAbs) :
  2 ^ 53 ≤ (rounded n).natAbs
  := by
  obtain ⟨k, hk, hlog, hbinade⟩ := exists_binade h
  rw [natAbs_rounded, spacing, hlog]
  calc
    2 ^ 53 = 2 ^ 52 * 2 ^ 1 := by decide
    _ ≤ roundDiv .toEven n.natAbs (2 ^ k) * 2 ^ k :=
      Nat.mul_le_mul (roundDiv_of_binade hbinade).1 (Nat.pow_le_pow_right (by decide) hk)

/-- The double nearest to a natural number of 64 bits is the number that it is rounded to. -/
theorem value?_ofInt_natCast {n : Nat} (h : n < 2 ^ 64) :
  (ofInt n).value? = some ((rounded n).natAbs : Rat)
  := by
  rcases Nat.lt_or_ge n (2 ^ 53) with hsmall | hlarge
  · have habs : (n : Int).natAbs < 2 ^ 53 := hsmall
    rw [value?_ofInt_of_lt hsmall, rounded_of_lt habs, Int.natAbs_natCast]
  · have habs : 2 ^ 53 ≤ (n : Int).natAbs := hlarge
    obtain ⟨k, hk, hlog, hbinade⟩ := exists_binade habs
    rw [Int.natAbs_natCast] at hlog hbinade
    have hbits : n.log2 < 64 := (Nat.log2_lt (by omega)).mpr h
    obtain ⟨m, q, hreading, hmul⟩ := reading_ofInt_of_binade hbinade ⟨hk, by omega⟩
    rw [value?_of_reading hreading, hmul, natAbs_rounded, spacing, Int.natAbs_natCast, hlog]

theorem nearest_lt (num den : Nat) :
  double.nearest num den < 2 ^ 63
  := by
  simp only [Format.nearest]
  split
  · apply Nat.two_pow_pos
  · apply Nat.lt_of_le_of_lt (Nat.min_le_right _ _)
    decide

/-- The double nearest to an integer of 64 bits is the integer that it is rounded to. -/
theorem value?_ofInt {n : Int} (h : n.natAbs < 2 ^ 64) :
  (ofInt n).value? = some (rounded n : Rat)
  := by
  have hnat := value?_ofInt_natCast h
  rw [natAbs_rounded, spacing, Int.natAbs_natCast] at hnat
  rcases Int.lt_or_le n 0 with hneg | hpos
  · have hmagnitude : ofInt n.natAbs = ofMagnitude false (double.nearest n.natAbs 1) := by
      rw [ofInt, decide_eq_false (by omega), Int.natAbs_natCast, ofQuotient]
    rw [hmagnitude] at hnat
    rw [ofInt, decide_eq_true hneg, ofQuotient, value?_ofMagnitude (nearest_lt _ _) hnat, rounded,
      Int.sign_eq_neg_one_of_neg hneg, spacing, neg_one_mul, Int.cast_neg, Int.cast_natCast]
  · have hsign : rounded n = (rounded n).natAbs := by
      rw [Int.natAbs_of_nonneg]
      apply Int.mul_nonneg (Int.sign_nonneg_iff.mpr hpos) (Int.natCast_nonneg _)
    rw [Int.natAbs_of_nonneg hpos] at hnat
    rw [hnat, hsign, natAbs_rounded, spacing, Int.cast_natCast]

/-- An integer that is a coefficient of 53 bits times a power of two is a multiple of the
distance. -/
theorem spacing_dvd_of_eq_mul {n : Int} {m k : Nat} (hm : m < 2 ^ 53) (h : n.natAbs = m * 2 ^ k) :
  spacing n ∣ n.natAbs
  := by
  by_cases hzero : n.natAbs = 0
  · rw [hzero]
    apply dvd_zero
  have hlog : n.natAbs.log2 < 53 + k := by
    rw [Nat.log2_lt hzero, h, Nat.pow_add]
    apply Nat.mul_lt_mul_of_pos_right hm (Nat.two_pow_pos k)
  calc
    spacing n ∣ 2 ^ k := pow_dvd_pow 2 (by omega)
    _ ∣ n.natAbs := by
      rw [h]
      apply dvd_mul_left

/-- The value of a double is a multiple of the distance if it is an integer. -/
theorem spacing_dvd_of_value? {x : Double} {n : Int} (h : x.value? = some (n : Rat)) :
  (spacing n : Int) ∣ n
  := by
  obtain ⟨negative, m, q, hreading⟩ := exists_finite_of_value? h
  have hm := coefficient_lt hreading
  rw [value?_of_finite hreading] at h
  have hvalue : (n.natAbs : Rat) = m * 2 ^ q := by
    have hpower : (0 : Rat) < 2 ^ q := zpow_pos two_pos q
    rw [Nat.cast_natAbs, Int.cast_abs, ← Option.some.inj h, abs_mul, abs_of_pos hpower]
    split
    · rw [abs_neg, Nat.abs_cast]
    · rw [Nat.abs_cast]
  rw [Int.natCast_dvd]
  cases q with
  | ofNat k =>
      rw [Int.ofNat_eq_natCast, zpow_natCast] at hvalue
      have hmul : n.natAbs = m * 2 ^ k := by exact_mod_cast hvalue
      apply spacing_dvd_of_eq_mul hm hmul
  | negSucc k =>
      have hmul : n.natAbs * 2 ^ (k + 1) = m := by
        rw [zpow_negSucc, ← div_eq_mul_inv, eq_div_iff (by positivity)] at hvalue
        exact_mod_cast hvalue
      have hlt : n.natAbs < 2 ^ 53 := by
        apply Nat.lt_of_le_of_lt _ hm
        rw [← hmul]
        apply Nat.le_mul_of_pos_right _ (Nat.two_pow_pos _)
      rw [spacing_of_lt hlt]
      apply one_dvd

/-- A double has the value of an integer of 64 bits exactly when the integer is a multiple of the
distance. -/
theorem exists_value?_iff {n : Int} (h : n.natAbs < 2 ^ 64) :
  (∃ x : Double, x.value? = some (n : Rat)) ↔ (spacing n : Int) ∣ n
  := by
  constructor
  · rintro ⟨x, hx⟩
    apply spacing_dvd_of_value? hx
  · intro hdvd
    use ofInt n
    rw [value?_ofInt h, (rounded_eq_iff n).mpr hdvd]

end Double

end BoundSql
