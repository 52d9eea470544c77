import BoundSql.Binary.Double
import BoundSql.Proofs.Number.Rounding
import Mathlib.Algebra.Order.Field.Rat
import Mathlib.Tactic.Use

/-!
# Doubles of large integers

A double has 53 bits for a coefficient. So the double nearest to an integer of
`53 + k` bits is a multiple of `2 ^ k`: the one that the integer is rounded to.
It is the integer itself exactly when the integer is such a multiple.
-/

namespace BoundSql

open BoundSql.Binary BoundSql.Number

namespace Double

/-- A word with a coefficient of 53 bits. -/
theorem read_of_normal {m p : Nat} (hm : 2 ^ 52 ≤ m ∧ m < 2 ^ 53) (hp : p ≤ 2045) :
  double.read (m + p * 2 ^ 52) = .finite false m (p - 1074)
  := by
  obtain ⟨hlow, hhigh⟩ := hm
  have hfield : (m + p * 2 ^ 52) / Nat.pow 2 double.fractionBits % Nat.pow 2 double.exponentBits
      = p + 1 := by
    show (m + p * 2 ^ 52) / 2 ^ 52 % 2 ^ 11 = p + 1
    omega
  have hfraction : Nat.pow 2 double.fractionBits
      + (m + p * 2 ^ 52) % Nat.pow 2 double.fractionBits = m := by
    show 2 ^ 52 + (m + p * 2 ^ 52) % 2 ^ 52 = m
    omega
  have hsign : ¬ double.signBit ≤ m + p * 2 ^ 52 := by
    show ¬ 2 ^ 63 ≤ m + p * 2 ^ 52
    omega
  have hpower : double.minPower + ((p + 1 : Nat) - 1) = (p : Int) - 1074 := by
    show (-1074 : Int) + ((p + 1 : Nat) - 1) = p - 1074
    omega
  have htop : p + 1 ≠ double.topField := by
    show p + 1 ≠ 2047
    omega
  simp only [Format.read, hfield, if_neg htop, if_neg (Nat.succ_ne_zero p), hfraction, hpower,
    decide_eq_false hsign]

/-- An integer of `53 + k` bits is rounded to at least 53 bits, and at most to the least number of
54 bits. -/
theorem roundDiv_of_binade {n k : Nat} (hn : 2 ^ (52 + k) ≤ n ∧ n < 2 ^ (53 + k)) :
  2 ^ 52 ≤ roundDiv .toEven n (2 ^ k) ∧ roundDiv .toEven n (2 ^ k) ≤ 2 ^ 53
  := by
  apply roundDiv_bounds .toEven (Nat.two_pow_pos k)
  · rw [← Nat.pow_add]
    apply hn.1
  · rw [← Nat.pow_add]
    apply Nat.le_of_lt hn.2

/-- The last bit of an integer of `53 + k` bits that a double has room for. -/
theorem placeOf_of_binade {n k : Nat} (hn : 2 ^ (52 + k) ≤ n ∧ n < 2 ^ (53 + k)) (hk : 1 ≤ k) :
  double.placeOf n 1 = k
  := by
  obtain ⟨j, rfl⟩ := Nat.exists_eq_add_of_le' hk
  have hpos : 0 < 2 ^ (52 + (j + 1)) := Nat.two_pow_pos _
  have hlog : n.log2 = 52 + (j + 1) := by
    apply (Nat.log2_eq_iff (by omega)).mpr
    rw [show 52 + (j + 1) + 1 = 53 + (j + 1) by omega]
    apply hn
  have hguess : max ((n.log2 : Int) - Nat.log2 1 - double.fractionBits - 1) double.minPower
      = j := by
    rw [hlog]
    show max (((52 + (j + 1) : Nat) : Int) - 0 - 52 - 1) (-1074) = j
    omega
  have htop : Nat.pow 2 (double.fractionBits + 1) ≤ n / (1 * 2 ^ j) := by
    rw [Nat.one_mul, Nat.le_div_iff_mul_le (Nat.two_pow_pos j)]
    show 2 ^ 53 * 2 ^ j ≤ n
    rw [← Nat.pow_add, show 53 + j = 52 + (j + 1) by omega]
    apply hn.1
  simp only [Format.placeOf, hguess, scaled_neg_natCast, if_pos htop]
  rfl

/-- The word nearest to an integer of `53 + k` bits. A coefficient that is rounded up to 54 bits
carries into the exponent. -/
theorem nearest_of_binade {n k : Nat} (hn : 2 ^ (52 + k) ≤ n ∧ n < 2 ^ (53 + k))
    (hk : 1 ≤ k ∧ k ≤ 900) :
  double.nearest n 1 = roundDiv .toEven n (2 ^ k) + (k + 1074) * 2 ^ 52
  := by
  have hpos : 0 < 2 ^ (52 + k) := Nat.two_pow_pos _
  have hround := (roundDiv_of_binade hn).2
  have hroom : roundDiv .toEven n (2 ^ k) + (k + 1074) * 2 ^ 52 ≤ double.infinity := by
    show roundDiv .toEven n (2 ^ k) + (k + 1074) * 2 ^ 52 ≤ 2047 * 2 ^ 52
    omega
  have hplace : ((k : Int) - double.minPower).toNat = k + 1074 := by
    show ((k : Int) - -1074).toNat = k + 1074
    omega
  simp only [Format.nearest, if_neg (show n ≠ 0 by omega), placeOf_of_binade hn hk.1,
    scaled_neg_natCast, Nat.one_mul, hplace]
  apply Nat.min_eq_left hroom

theorem bits_ofInt (n : Nat) :
  (ofInt n).bits.toNat = double.nearest n 1 % 2 ^ 64
  := by
  have hsign : decide ((n : Int) < 0) = false := decide_eq_false (by omega)
  rw [ofInt, hsign, Int.natAbs_natCast, ofQuotient, ofMagnitude, Format.signed,
    if_neg Bool.false_ne_true, UInt64.toNat_ofNat']

/-- The double nearest to an integer of `53 + k` bits has the coefficient and the exponent of the
multiple of `2 ^ k` that the integer is rounded to. -/
theorem reading_ofInt_of_binade {n k : Nat} (hn : 2 ^ (52 + k) ≤ n ∧ n < 2 ^ (53 + k))
    (hk : 1 ≤ k ∧ k ≤ 900) :
  ∃ m q : Nat, (ofInt n).reading = .finite false m q
    ∧ m * 2 ^ q = roundDiv .toEven n (2 ^ k) * 2 ^ k
  := by
  obtain ⟨hlow, hhigh⟩ := roundDiv_of_binade hn
  have hbits : (ofInt n).bits.toNat = roundDiv .toEven n (2 ^ k) + (k + 1074) * 2 ^ 52 := by
    rw [bits_ofInt, nearest_of_binade hn hk]
    omega
  rw [reading, hbits]
  rcases Nat.lt_or_eq_of_le hhigh with hlt | hcarry
  · have hpower : ((k + 1074 : Nat) : Int) - 1074 = k := by omega
    use roundDiv .toEven n (2 ^ k), k
    rw [read_of_normal ⟨hlow, hlt⟩ (by omega), hpower]
    use rfl
  · have hpower : ((k + 1075 : Nat) : Int) - 1074 = (k + 1 : Nat) := by omega
    use 2 ^ 52, k + 1
    rw [hcarry, show 2 ^ 53 + (k + 1074) * 2 ^ 52 = 2 ^ 52 + (k + 1075) * 2 ^ 52 by omega,
      read_of_normal (by omega) (by omega), hpower, Nat.pow_succ 2 k]
    use rfl
    omega

/-- A finite double is its coefficient times a power of two. -/
theorem value?_of_finite {x : Double} {negative : Bool} {m : Nat} {q : Int}
    (h : x.reading = .finite negative m q) :
  x.value? = some ((if negative then -(m : Rat) else m) * 2 ^ q)
  := by
  rw [value?, h]
  cases q with
  | ofNat k =>
      cases negative with
      | true => simp [scaled, Rat.mkRat_eq_div]
      | false => simp [scaled, Rat.mkRat_eq_div]
  | negSucc k =>
      cases negative with
      | true => simp [scaled, Rat.mkRat_eq_div, div_eq_mul_inv, zpow_negSucc]
      | false => simp [scaled, Rat.mkRat_eq_div, div_eq_mul_inv, zpow_negSucc]

theorem value?_of_reading {x : Double} {m q : Nat} (h : x.reading = .finite false m q) :
  x.value? = some ((m * 2 ^ q : Nat) : Rat)
  := by
  rw [value?_of_finite h, if_neg Bool.false_ne_true, zpow_natCast, Nat.cast_mul, Nat.cast_pow,
    Nat.cast_ofNat]

theorem isFinite_of_reading {x : Double} {negative : Bool} {m : Nat} {q : Int}
    (h : x.reading = .finite negative m q) :
  x.isFinite = true
  := by
  rw [isFinite, h]

end Double

end BoundSql
