import BoundSql.Proofs.Decimal.Numeral
import BoundSql.Proofs.Number.Rounding
import BoundSql.Value.Coerce
import Mathlib.Tactic.FieldSimp
import Mathlib.Tactic.Linarith
import Mathlib.Tactic.Positivity
import Mathlib.Tactic.Ring

/-!
# Values of read decimals

A decimal that is read is less than a unit of its last place off its numeral. It stays so
when its point is moved, and what is whole in the end is less than one off.
-/

namespace BoundSql.Decimal

open BoundSql.Text BoundSql.Number

variable {d d' : Decimal} {v : Rat} {n : Nat}

/-- The decimal is less than a unit of its last place off. -/
def IsNear (d : Decimal) (v : Rat) : Prop :=
  |v - d.value| < 1 / 10 ^ d.scale

/-- The decimal has all the places that there are, or nearly the largest mantissa. -/
def IsFull (d : Decimal) : Prop :=
  d.scale = maxScale ∨ mantissaLimit ≤ 10 * d.mantissa + 9

theorem abs_signed_sub (negative : Bool) (x y : Rat) :
  |signed negative x - signed negative y| = |x - y|
  := by
  cases negative with
  | false => rfl
  | true =>
      rw [signed, signed, if_pos rfl, if_pos rfl, ← abs_neg, neg_sub_neg, neg_sub]

theorem value_eq (d : Decimal) :
  d.value = signed d.negative (d.mantissa / 10 ^ d.scale)
  := by
  have hpow : ((Nat.pow 10 d.scale : Nat) : Rat) = 10 ^ d.scale := by
    rw [Nat.pow_eq, Nat.cast_pow, Nat.cast_ofNat]
  rw [value, Rat.mkRat_eq_div, hpow, signed]
  split
  · rw [Int.cast_neg, Int.cast_natCast, neg_div]
  · rw [Int.cast_natCast]

/-- The sign of a zero does not count. -/
theorem value_eq_signed {negative : Bool} (h : d.negative = (negative && d.mantissa != 0)) :
  d.value = signed negative (d.mantissa / 10 ^ d.scale)
  := by
  rw [value_eq, h]
  by_cases hzero : d.mantissa = 0
  · simp [hzero, signed]
  · rw [bne_iff_ne.mpr hzero, Bool.and_true]

/-! ### Reading -/

theorem div_sub_div_eq (a m : Rat) (scale lost : Nat) :
  a / 10 ^ (scale + lost) - m / 10 ^ scale = (a - m * 10 ^ lost) / 10 ^ lost / 10 ^ scale
  := by
  rw [pow_add]
  field_simp

theorem Reads.isNear {digits places : Nat} (h : d.Reads digits places) {negative : Bool}
    (hsign : d.negative = (negative && d.mantissa != 0)) :
  d.IsNear (signed negative (digits / 10 ^ places))
  := by
  rw [IsNear, value_eq_signed hsign, abs_signed_sub]
  cases h with
  | exact hmantissa hscale =>
      rw [← hmantissa, ← hscale, sub_self, abs_zero]
      positivity
  | rounded lost hplaces low high =>
      have hunit : (0 : Rat) < 10 ^ lost := by positivity
      have hscale : (0 : Rat) < 10 ^ d.scale := by positivity
      have hlow : (d.mantissa : Rat) * 10 ^ lost < digits + 10 ^ lost := by exact_mod_cast low
      have hhigh : (digits : Rat) < (d.mantissa + 1) * 10 ^ lost := by exact_mod_cast high
      rw [hplaces, div_sub_div_eq, abs_div, abs_of_pos hscale]
      apply div_lt_div_of_pos_right _ hscale
      rw [abs_div, abs_of_pos hunit, div_lt_one hunit, abs_lt]
      constructor
      · linarith
      · linarith

/-- A decimal that is not full has the value of its numeral. -/
theorem Reads.value_or_isFull {digits places : Nat} (h : d.Reads digits places) {negative : Bool}
    (hsign : d.negative = (negative && d.mantissa != 0)) :
  d.value = signed negative (digits / 10 ^ places) ∨ d.IsFull
  := by
  cases h with
  | exact hmantissa hscale =>
      left
      rw [value_eq_signed hsign, hmantissa, hscale]
  | rounded _ _ _ _ _ full => exact .inr full

/-- Where there is room for all digits, the decimal has the value of its numeral. -/
theorem Reads.value_eq {digits places : Nat} (h : d.Reads digits places) {negative : Bool}
    (hsign : d.negative = (negative && d.mantissa != 0)) (hplaces : places ≤ maxScale)
    (hdigits : digits < mantissaLimit) :
  d.value = signed negative (digits / 10 ^ places)
  := by
  cases h with
  | exact hmantissa hscale => rw [value_eq_signed hsign, hmantissa, hscale]
  | rounded _ _ _ _ large => omega

theorem Reads.scale_le {digits places : Nat} (h : d.Reads digits places) :
  d.scale ≤ places
  := by
  cases h with
  | exact _ hscale => exact hscale.le
  | rounded lost hplaces => omega

/-! ### Moving the point to the right -/

theorem signed_mul (negative : Bool) (x c : Rat) :
  signed negative x * c = signed negative (x * c)
  := by
  cases negative with
  | false => rfl
  | true => rw [signed, signed, if_pos rfl, if_pos rfl, neg_mul]

/-- The point is moved beyond the places by zeros behind the mantissa. -/
theorem shiftRight?_of_lt (h : d.shiftRight? n = some d') (hn : d.scale < n) :
  n ≤ maxScale ∧ d'.negative = (d.negative && d'.mantissa != 0)
    ∧ d'.mantissa = d.mantissa * 10 ^ (n - d.scale) ∧ d'.scale = 0
  := by
  rw [shiftRight?, if_neg (Nat.not_le.mpr hn)] at h
  split at h
  · contradiction
  · next hroom => exact ⟨Nat.not_lt.mp hroom, ofSigned?_eq_some h⟩

/-- Moving the point to the right is exact. -/
theorem value_of_shiftRight? (h : d.shiftRight? n = some d') :
  d'.value = d.value * 10 ^ n
  := by
  rw [value_eq d, signed_mul]
  rcases Nat.lt_or_ge d.scale n with hn | hn
  · obtain ⟨_, hsign, hmantissa, hscale⟩ := shiftRight?_of_lt h hn
    rw [value_eq_signed hsign, hmantissa, hscale, Nat.cast_mul, Nat.cast_pow, Nat.cast_ofNat]
    congr 1
    have hshift : (10 : Rat) ^ n = 10 ^ d.scale * 10 ^ (n - d.scale) := by
      rw [← pow_add, Nat.add_sub_cancel' hn.le]
    rw [hshift, pow_zero, div_one]
    field_simp
  · rw [shiftRight?, if_pos hn] at h
    obtain ⟨hsign, hmantissa, hscale⟩ := ofParts?_eq_some h
    rw [value_eq, hsign, hmantissa, hscale]
    congr 1
    have hshift : (10 : Rat) ^ d.scale = 10 ^ (d.scale - n) * 10 ^ n := by
      rw [← pow_add, Nat.sub_add_cancel hn]
    rw [hshift]
    field_simp

/-! ### Moving the point to the left -/

/-- Places are dropped by rounding the mantissa. -/
theorem rescale_of_le {s : Nat} (hs : s ≤ d.scale) :
  (d.rescale s).negative = d.negative
    ∧ (d.rescale s).mantissa = roundDiv .up d.mantissa (10 ^ (d.scale - s))
    ∧ (d.rescale s).scale = s
  := by
  have hunit : 0 < 10 ^ (d.scale - s) := Nat.pow_pos (by decide)
  have hmin : min s maxScale = s := Nat.min_eq_left (Nat.le_trans hs d.scale_le)
  have hzero : 0 * 10 ^ (d.scale - s) ≤ d.mantissa := by
    rw [Nat.zero_mul]
    apply Nat.zero_le
  have hle : roundDiv .up d.mantissa (10 ^ (d.scale - s)) ≤ d.mantissa :=
    (roundDiv_bounds .up hunit hzero (Nat.le_mul_of_pos_right _ hunit)).2
  have hroom : roundDiv .up d.mantissa (10 ^ (d.scale - s)) < mantissaLimit ∧ s ≤ maxScale :=
    ⟨Nat.lt_of_le_of_lt hle d.mantissa_lt, Nat.le_trans hs d.scale_le⟩
  have hparts : (if d.mantissa = 0 then (0, s)
      else (roundDiv .up d.mantissa (Nat.pow 10 (d.scale - s)), s))
      = (roundDiv .up d.mantissa (10 ^ (d.scale - s)), s) := by
    split
    · next hnone =>
        rw [hnone] at hle ⊢
        rw [Nat.le_zero.mp hle]
    · rw [Nat.pow_eq]
  have hrescale : d.rescale s
      = ⟨d.negative, roundDiv .up d.mantissa (10 ^ (d.scale - s)), s, hroom.1, hroom.2⟩ := by
    simp only [rescale, hmin, if_pos hs, hparts]
    rw [ofParts?, dif_pos hroom]
    rfl
  rw [hrescale]
  exact ⟨rfl, rfl, rfl⟩

/-- Dropping places moves a decimal by no more than half a unit of the last place that is kept. -/
theorem abs_value_sub_rescale {s : Nat} (hs : s ≤ d.scale) :
  |d.value - (d.rescale s).value| ≤ 1 / 2 / 10 ^ s
  := by
  obtain ⟨hsign, hmantissa, hscale⟩ := rescale_of_le hs
  have hunit : (0 : Rat) < 10 ^ (d.scale - s) := by positivity
  have hplaces : (0 : Rat) < 10 ^ s := by positivity
  obtain ⟨habove, hbelow⟩ :=
    roundDiv_near .up d.mantissa (10 ^ (d.scale - s)) (Nat.pow_pos (by decide))
  have habove : 2 * (d.mantissa : Rat)
      ≤ (2 * roundDiv .up d.mantissa (10 ^ (d.scale - s)) + 1) * 10 ^ (d.scale - s) := by
    exact_mod_cast habove
  have hbelow : 2 * (roundDiv .up d.mantissa (10 ^ (d.scale - s)) : Rat) * 10 ^ (d.scale - s)
      ≤ 2 * d.mantissa + 10 ^ (d.scale - s) := by
    exact_mod_cast hbelow
  have hsplit : d.scale = s + (d.scale - s) := (Nat.add_sub_cancel' hs).symm
  rw [value_eq, value_eq, hsign, hmantissa, hscale, abs_signed_sub]
  nth_rewrite 1 [hsplit]
  rw [div_sub_div_eq, abs_div, abs_of_pos hplaces]
  apply div_le_div_of_nonneg_right _ hplaces.le
  rw [abs_div, abs_of_pos hunit, div_le_iff₀ hunit, abs_le]
  constructor
  · linarith
  · linarith

/-- Nothing is rounded when all places are kept. -/
theorem value_rescale_self (d : Decimal) :
  (d.rescale d.scale).value = d.value
  := by
  obtain ⟨hsign, hmantissa, hscale⟩ := rescale_of_le (Nat.le_refl d.scale)
  rw [Nat.sub_self, Nat.pow_zero, roundDiv_of_dvd .up Nat.one_pos (Nat.one_dvd _),
    Nat.div_one] at hmantissa
  rw [value_eq, value_eq, hsign, hmantissa, hscale]

/-- A decimal that is near stays near when places are dropped. -/
theorem IsNear.rescale {s : Nat} (h : d.IsNear v) (hs : s ≤ d.scale) :
  (d.rescale s).IsNear v
  := by
  rw [IsNear, (rescale_of_le hs).2.2]
  rcases Nat.lt_or_eq_of_le hs with hlt | rfl
  · have hplaces : (0 : Rat) < 1 / 10 ^ s := by positivity
    have hunit : (1 : Rat) / 10 ^ d.scale ≤ 1 / 10 ^ (s + 1) := by
      apply one_div_le_one_div_of_le (by positivity)
      apply pow_le_pow_right₀ (by norm_num) hlt
    calc
      |v - (d.rescale s).value| ≤ |v - d.value| + |d.value - (d.rescale s).value| :=
        abs_sub_le v d.value (d.rescale s).value
      _ < 1 / 10 ^ d.scale + 1 / 2 / 10 ^ s := add_lt_add_of_lt_of_le h (abs_value_sub_rescale hs)
      _ ≤ 1 / 10 ^ (s + 1) + 1 / 2 / 10 ^ s := add_le_add_left hunit _
      _ = 6 / 10 * (1 / 10 ^ s) := by
        rw [pow_succ]
        field_simp
        norm_num
      _ < 1 / 10 ^ s := by linarith
  · rw [value_rescale_self]
    apply h

/-- Moving the point to the left drops the places for which there is no room. -/
theorem value_of_shiftLeft? (h : d.shiftLeft? n = some d') :
  d'.value = (d.rescale (min d.scale (maxScale - n))).value / 10 ^ n
  := by
  rw [shiftLeft?] at h
  split at h
  · contradiction
  · obtain ⟨hsign, hmantissa, hscale⟩ := ofParts?_eq_some h
    rw [value_eq, hsign, hmantissa, hscale, value_eq, div_eq_mul_inv _ (10 ^ n : Rat), signed_mul,
      pow_add]
    congr 1
    field_simp

/-- Moving the point to the left is exact when there is room for all places. -/
theorem value_of_shiftLeft?_of_le (h : d.shiftLeft? n = some d') (hroom : d.scale + n ≤ maxScale) :
  d'.value = d.value / 10 ^ n
  := by
  have hkept : min d.scale (maxScale - n) = d.scale := Nat.min_eq_left (by omega)
  rw [value_of_shiftLeft? h, hkept, value_rescale_self]

/-! ### Whole decimals -/

/-- A whole decimal has so many units in its mantissa as its integer part says. -/
theorem mantissa_eq_of_isWhole (h : d.isWhole = true) :
  d.mantissa = 10 ^ d.scale * (d.mantissa / 10 ^ d.scale)
  := by
  rw [isWhole, decide_eq_true_eq] at h
  exact (Nat.mul_div_cancel' (Nat.dvd_of_mod_eq_zero h)).symm

theorem value_of_isWhole (h : d.isWhole = true) :
  d.value = d.wholePart
  := by
  have hmantissa : (d.mantissa : Rat) / 10 ^ d.scale = (d.mantissa / 10 ^ d.scale : Nat) := by
    have hcast := congrArg (Nat.cast (R := Rat)) (mantissa_eq_of_isWhole h)
    rw [Nat.cast_mul, Nat.cast_pow, Nat.cast_ofNat] at hcast
    rw [hcast]
    field_simp
  rw [value_eq, hmantissa, signed, wholePart, Nat.pow_eq, ← Int.natCast_ediv]
  split
  · rw [Int.cast_neg, Int.cast_natCast]
  · rw [Int.cast_natCast]

theorem natAbs_wholePart (d : Decimal) :
  d.wholePart.natAbs = d.mantissa / 10 ^ d.scale
  := by
  rw [wholePart, Nat.pow_eq, ← Int.natCast_ediv]
  split
  · rw [Int.natAbs_neg, Int.natAbs_natCast]
  · rw [Int.natAbs_natCast]

/-- A 64-bit integer that is a decimal has its value, and the mantissa has not more units than such
integers have. -/
theorem value_of_toInt64? {i : Int64} (h : d.toInt64? = some i) :
  d.value = i.toInt ∧ d.mantissa ≤ 10 ^ d.scale * 2 ^ 63
  := by
  rw [toInt64?] at h
  split at h
  · next hwhole =>
      have hword := toInt_of_int64Of? h
      have hrange : i.toInt.natAbs ≤ 2 ^ 63 := by
        have hlow := Int64.le_toInt i
        have hhigh := Int64.toInt_lt i
        omega
      rw [hword, natAbs_wholePart] at hrange
      rw [hword]
      use value_of_isWhole hwhole
      rw [mantissa_eq_of_isWhole hwhole]
      apply Nat.mul_le_mul_left _ hrange
  · contradiction

/-! ### Integers read from numerals -/

theorem IsNear.lt_one (h : d.IsNear v) :
  |v - d.value| < 1
  := by
  apply lt_of_lt_of_le h
  rw [one_div]
  apply inv_le_one_of_one_le₀
  apply one_le_pow₀
  norm_num

/-- A decimal that has lost digits is too large for a 64-bit integer when its point is moved beyond
its places, and less than one off when it is moved among them. -/
theorem IsNear.shiftRight (h : d.IsNear v) (hfull : d.value = v ∨ d.IsFull)
    (hshift : d.shiftRight? n = some d') {i : Int64} (hint : d'.toInt64? = some i) :
  |v * 10 ^ n - d'.value| < 1
  := by
  rw [value_of_shiftRight? hshift, ← sub_mul]
  rcases Nat.lt_or_ge d.scale n with hn | hn
  · obtain ⟨hroom, _, hmantissa, hscale⟩ := shiftRight?_of_lt hshift hn
    rcases hfull with rfl | hscale' | hlarge
    · rw [sub_self, zero_mul, abs_zero]
      exact one_pos
    · omega
    · -- the mantissa has one more place
      have hten : 10 ^ 1 ≤ 10 ^ (n - d.scale) := Nat.pow_le_pow_right (by decide) (by omega)
      have hgrown : d.mantissa * 10 ^ 1 ≤ d'.mantissa := by
        rw [hmantissa]
        apply Nat.mul_le_mul_left _ hten
      have hsmall := (value_of_toInt64? hint).2
      rw [hscale] at hsmall
      simp only [mantissaLimit, Nat.pow_eq] at hlarge
      omega
  · have hunit : (0 : Rat) < 10 ^ n := by positivity
    have hplaces : (10 : Rat) ^ n ≤ 10 ^ d.scale := pow_le_pow_right₀ (by norm_num) hn
    rw [abs_mul, abs_of_pos hunit]
    calc
      |v - d.value| * 10 ^ n < 1 / 10 ^ d.scale * 10 ^ n := mul_lt_mul_of_pos_right h hunit
      _ = 10 ^ n / 10 ^ d.scale := by rw [one_div_mul_eq_div]
      _ ≤ 1 := div_le_one_of_le₀ hplaces (by positivity)

/-- A decimal that is near is less than one off when its point is moved to the left. -/
theorem IsNear.shiftLeft (h : d.IsNear v) (hshift : d.shiftLeft? n = some d') :
  |v / 10 ^ n - d'.value| < 1
  := by
  have hunit : (1 : Rat) ≤ 10 ^ n := one_le_pow₀ (by norm_num)
  have hnear := (h.rescale (Nat.min_le_left d.scale (maxScale - n))).lt_one
  have hpos : (0 : Rat) < 10 ^ n := by positivity
  rw [value_of_shiftLeft? hshift, ← sub_div, abs_div, abs_of_pos hpos]
  apply lt_of_le_of_lt _ hnear
  apply div_le_self (abs_nonneg _) hunit

end BoundSql.Decimal
