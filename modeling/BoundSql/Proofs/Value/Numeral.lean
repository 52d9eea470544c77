import BoundSql.Proofs.Decimal.Shift

/-!
# Integers in texts

A text that is coerced to an integer is less than one off the integer, and its value is
the integer when a decimal has room for all its digits and places. Unless a sign of it is
spare, it is a numeral of the integer exactly when its value is an integer at all.
-/

namespace BoundSql

open BoundSql.Text
open BoundSql.Double (takeSign)

namespace Text

/-- There is no second point, and no plus sign behind the minus sign of the exponent. -/
structure HasNoSpareSigns (cs : List Char) : Prop where
  point : (takeSign (significand cs)).2.count '.' ≤ 1
  exponent : ∀ r ∈ exponent? cs, ¬['-', '+'] <+: r

/-- There is room for all digits and places of a numeral in a decimal. -/
structure FitsDecimal (cs : List Char) : Prop where
  digits_lt : digitsAmong (takeSign (significand cs)).2 < Decimal.mantissaLimit
  places_le : places (takeSign (significand cs)).2 ≤ Decimal.maxScale
  shifted_le : places (takeSign (significand cs)).2 ≤ Decimal.maxScale
    + (exponent? cs).elim 0 exponentValue

theorem IsNumeral.hasNoSpareSigns {cs : List Char} (h : IsNumeral cs) :
  HasNoSpareSigns cs
  := by
  use h.significand.point
  rintro r hr ⟨ds, rfl⟩
  have hplus := (h.exponent _ hr).digits '+' List.mem_cons_self
  contradiction

end Text

namespace Decimal

variable {t : String} {d : Decimal}

/-- A text without spare signs that is read as a decimal is a numeral. -/
theorem isNumeral_of_ofText? (h : ofText? t = some d) (hspare : HasNoSpareSigns t.toList) :
  IsNumeral t.toList
  := by
  obtain ⟨d₀, hplain, hexponent⟩ := exists_of_ofText? h
  use unsignedNumeral_of_ofPlain? hplain hspare.point
  intro r hr
  rcases hexponent with ⟨hnone, _⟩ | ⟨r', n, hr', hexp, _⟩
  · rw [hnone] at hr
    contradiction
  · rw [hr'] at hr
    obtain rfl := Option.some.inj hr
    exact hexp.numeral (hspare.exponent r' hr')

theorem exponentValue_of_isExponent {r : List Char} {n : Nat} (h : IsExponent r n) :
  exponentValue r = if (takeSign r).1 then -(n : Int) else n
  := by
  rw [exponentValue, h.value]

/-- A decimal that is a 64-bit integer is less than one off the numeral that it is read from. -/
theorem abs_numeralValue_sub_lt {i : Int64} (h : ofText? t = some d) (hint : d.toInt64? = some i) :
  |numeralValue t.toList - d.value| < 1
  := by
  obtain ⟨d₀, hplain, hexponent⟩ := exists_of_ofText? h
  obtain ⟨hsign, hreads⟩ := reads_of_ofPlain? hplain
  have hnear : d₀.IsNear (significandValue (significand t.toList)) := hreads.isNear hsign
  rcases hexponent with ⟨hnone, rfl⟩ | ⟨r, n, hr, hexp, hshift⟩
  · rw [numeralValue, hnone, Option.elim_none, zpow_zero, mul_one]
    exact hnear.lt_one
  · rw [numeralValue, hr, Option.elim_some, exponentValue_of_isExponent hexp]
    rw [shifted?] at hshift
    split at hshift
    · next hminus =>
        rw [if_pos hminus, zpow_neg, zpow_natCast, ← div_eq_mul_inv]
        exact hnear.shiftLeft hshift
    · next hplus =>
        rw [if_neg hplus, zpow_natCast]
        exact hnear.shiftRight (hreads.value_or_isFull hsign) hshift hint

/-- A numeral for whose digits and places there is room is read exactly. -/
theorem value_of_fitsDecimal (h : ofText? t = some d) (hfits : FitsDecimal t.toList) :
  d.value = numeralValue t.toList
  := by
  obtain ⟨d₀, hplain, hexponent⟩ := exists_of_ofText? h
  obtain ⟨hsign, hreads⟩ := reads_of_ofPlain? hplain
  have hvalue : d₀.value = significandValue (significand t.toList) :=
    hreads.value_eq hsign hfits.places_le hfits.digits_lt
  have hroom := hfits.shifted_le
  rcases hexponent with ⟨hnone, rfl⟩ | ⟨r, n, hr, hexp, hshift⟩
  · rw [numeralValue, hnone, Option.elim_none, zpow_zero, mul_one, hvalue]
  · rw [hr, Option.elim_some, exponentValue_of_isExponent hexp] at hroom
    rw [numeralValue, hr, Option.elim_some, exponentValue_of_isExponent hexp]
    rw [shifted?] at hshift
    split at hshift
    · next hminus =>
        rw [if_pos hminus] at hroom
        have hscale := hreads.scale_le
        rw [if_pos hminus, zpow_neg, zpow_natCast, ← div_eq_mul_inv, ← hvalue]
        exact value_of_shiftLeft?_of_le hshift (by omega)
    · next hplus =>
        rw [if_neg hplus, zpow_natCast, ← hvalue]
        exact value_of_shiftRight? hshift

end Decimal

namespace Value

variable {s : String} {n : Int64}

/-- A text is coerced to an integer when the decimal that is read from it is one. -/
theorem exists_of_coerce_integer (h : coerce .integer (.string s) = .ok (.int n)) :
  ∃ d, Decimal.ofText? (trim s) = some d ∧ d.toInt64? = some n
  := by
  simp only [coerce, ofText, ofText?] at h
  split at h
  · next v hv =>
      obtain rfl := Except.ok.inj h
      obtain ⟨m, hm, hword⟩ := Option.map_eq_some_iff.mp hv
      obtain rfl := Value.int.inj hword
      exact Option.bind_eq_some_iff.mp hm
  · contradiction

/-- A text that is coerced to an integer is less than one off it, and is of its value when there is
room for its digits and places. It is a numeral of the integer exactly when it has no spare signs
and its value is an integer. -/
theorem coerce_string_exact_iff (h : coerce .integer (.string s) = .ok (.int n)) :
  |numeralValue (trim s).toList - n.toInt| < 1
    ∧ (FitsDecimal (trim s).toList → numeralValue (trim s).toList = n.toInt)
    ∧ (IsNumeral (trim s).toList ∧ numeralValue (trim s).toList = n.toInt
      ↔ HasNoSpareSigns (trim s).toList ∧ ∃ k : Int, numeralValue (trim s).toList = k)
  := by
  obtain ⟨d, hread, hint⟩ := exists_of_coerce_integer h
  have hvalue := (Decimal.value_of_toInt64? hint).1
  have hnear := Decimal.abs_numeralValue_sub_lt hread hint
  rw [hvalue] at hnear
  refine ⟨hnear, ?_, ?_⟩
  · intro hfits
    rw [← hvalue, Decimal.value_of_fitsDecimal hread hfits]
  · constructor
    · rintro ⟨hnumeral, hexact⟩
      exact ⟨hnumeral.hasNoSpareSigns, n.toInt, hexact⟩
    · rintro ⟨hspare, k, hk⟩
      use Decimal.isNumeral_of_ofText? hread hspare
      -- integers that are less than one apart are the same
      rw [hk, ← Int.cast_sub, ← Int.cast_abs] at hnear
      have hlt : |k - n.toInt| < 1 := by exact_mod_cast hnear
      rw [hk, sub_eq_zero.mp (Int.abs_lt_one_iff.mp hlt)]

/-- A numeral with an underscore, a place and an exponent is read exactly. -/
theorem coerce_string_exact_iff_scientific :
  coerce .integer (.string " 1_0.5e1 ") = .ok (.int 105)
    ∧ IsNumeral "1_0.5e1".toList ∧ numeralValue "1_0.5e1".toList = 105
  := by
  have hcoerce : coerce .integer (.string " 1_0.5e1 ") = .ok (.int 105) := by rfl
  have htrim : (trim " 1_0.5e1 ").toList = "1_0.5e1".toList := by decide +kernel
  have hfits : FitsDecimal "1_0.5e1".toList :=
    ⟨by decide +kernel, by decide +kernel, by decide +kernel⟩
  have hspare : HasNoSpareSigns "1_0.5e1".toList := ⟨by decide +kernel, by decide +kernel⟩
  obtain ⟨_, hexact, hiff⟩ := coerce_string_exact_iff hcoerce
  rw [htrim] at hexact hiff
  obtain ⟨hnumeral, hvalue⟩ := hiff.mpr ⟨hspare, 105, hexact hfits⟩
  exact ⟨hcoerce, hnumeral, hvalue⟩

/-- A text whose places are rounded away is coerced to an integer that is not its value. -/
theorem not_coerce_string_exact :
  coerce .integer (.string "1.00000000000000000000000000001") = .ok (.int 1)
    ∧ ¬ ∀ (s : String) (n : Int64), coerce .integer (.string s) = .ok (.int n) →
      IsNumeral (trim s).toList ∧ numeralValue (trim s).toList = n.toInt
  := by
  have hcoerce : coerce .integer (.string "1.00000000000000000000000000001") = .ok (.int 1) := by
    rfl
  use hcoerce
  intro h
  have hvalue := (h _ _ hcoerce).2
  have htrim : trim "1.00000000000000000000000000001" = "1.00000000000000000000000000001" := by
    decide +kernel
  rw [htrim] at hvalue
  revert hvalue
  decide +kernel

end Value

end BoundSql
