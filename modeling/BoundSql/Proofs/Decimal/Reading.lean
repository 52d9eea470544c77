import BoundSql.Decimal.Literal
import BoundSql.Proofs.Text.Numeral
import Mathlib.Tactic.Use

/-!
# Reading decimals

The digits of a written decimal are those of its mantissa, and its point stands
where the scale says. So a written decimal is read with its mantissa and its
scale, and with its sign unless it is zero.
-/

namespace BoundSql.Decimal

open BoundSql.Text

/-! ### Scanning digits -/

theorem le_ofDigitChars (ds : List Char) (m : Nat) :
  m ≤ Nat.ofDigitChars 10 ds m
  := by
  induction ds generalizing m with
  | nil => apply Nat.le_refl
  | cons c ds ih =>
      rw [Nat.ofDigitChars_cons]
      have hrest := ih (10 * m + (c.toNat - '0'.toNat))
      omega

variable {ds : List Char} {m s : Nat}

/-- Digits in front of the point go to the mantissa. -/
theorem scan_whole (negative : Bool) (hds : Numeral ds)
    (hlt : Nat.ofDigitChars 10 ds m < mantissaLimit) (digit : Bool) (rest : List Char) :
  scan negative false digit m 0 (ds ++ rest)
    = scan negative false true (Nat.ofDigitChars 10 ds m) 0 rest
  := by
  obtain ⟨hdigits, hne⟩ := hds
  induction ds generalizing m digit with
  | nil => apply absurd rfl hne
  | cons c ds ih =>
      rw [List.forall_mem_cons] at hdigits
      -- the mantissa only grows, so the limit at the end holds at each digit
      have hnext := le_ofDigitChars ds (10 * m + (c.toNat - '0'.toNat))
      rw [Nat.ofDigitChars_cons] at hlt ⊢
      rw [List.cons_append, scan, if_pos hdigits.1]
      simp only [Bool.false_and, Bool.false_eq_true, if_false]
      rw [if_neg (by omega)]
      cases ds with
      | nil => rfl
      | cons c' ds => apply ih hlt true hdigits.2 (List.cons_ne_nil _ _)

/-- Digits behind the point go to the mantissa and the scale. -/
theorem scan_places (negative : Bool) (hdigits : ∀ c ∈ ds, c.isDigit = true)
    (hlt : Nat.ofDigitChars 10 ds m < mantissaLimit) (hscale : s + ds.length ≤ maxScale) :
  scan negative true true m s ds
    = ofSigned? negative (Nat.ofDigitChars 10 ds m) (s + ds.length)
  := by
  induction ds generalizing m s with
  | nil => rw [scan, if_pos rfl, Nat.ofDigitChars_nil, List.length_nil, Nat.add_zero]
  | cons c ds ih =>
      rw [List.forall_mem_cons] at hdigits
      rw [List.length_cons] at hscale ⊢
      have hnext := le_ofDigitChars ds (10 * m + (c.toNat - '0'.toNat))
      rw [Nat.ofDigitChars_cons] at hlt ⊢
      have hroom : ¬ (s = maxScale ∨ mantissaLimit ≤ 10 * m + (c.toNat - '0'.toNat)) := by omega
      rw [scan, if_pos hdigits.1]
      simp only [Bool.true_and, Bool.or_eq_true, decide_eq_true_eq, if_neg hroom, if_true]
      rw [if_neg (by omega), ih hdigits.2 hlt (by omega), Nat.add_assoc, Nat.add_comm 1]

/-! ### Written decimals -/

/-- The decimal without the sign of a zero. -/
def unsignedZero (d : Decimal) : Decimal :=
  { d with negative := d.negative && d.mantissa != 0 }

theorem value_unsignedZero (d : Decimal) :
  d.unsignedZero.value = d.value
  := by
  obtain ⟨negative, mantissa, scale, hmantissa, hscale⟩ := d
  rw [value, value, unsignedZero]
  by_cases hzero : mantissa = 0
  · simp [hzero]
  · simp [hzero]

variable (d : Decimal)

/-- The digits of a decimal in front of its point. -/
def wholeDigits : List Char :=
  (padded (d.scale + 1) d.mantissa).take ((padded (d.scale + 1) d.mantissa).length - d.scale)

/-- The digits of a decimal behind its point. -/
def placeDigits : List Char :=
  (padded (d.scale + 1) d.mantissa).drop ((padded (d.scale + 1) d.mantissa).length - d.scale)

theorem scale_lt_length_padded :
  d.scale < (padded (d.scale + 1) d.mantissa).length
  := by
  rw [padded, List.length_append, List.length_replicate]
  omega

theorem numeral_wholeDigits :
  Numeral d.wholeDigits
  := by
  have hdigits := numeral_padded (d.scale + 1) d.mantissa
  constructor
  · intro c hc
    apply hdigits.digits c (List.mem_of_mem_take hc)
  · have hlength := d.scale_lt_length_padded
    rw [wholeDigits, ne_eq, List.take_eq_nil_iff, not_or]
    use by omega, hdigits.nonempty

theorem isDigit_of_mem_placeDigits {c : Char} (h : c ∈ d.placeDigits) :
  c.isDigit = true
  := (numeral_padded (d.scale + 1) d.mantissa).digits c (List.mem_of_mem_drop h)

theorem length_placeDigits :
  d.placeDigits.length = d.scale
  := by
  have hlength := d.scale_lt_length_padded
  rw [placeDigits, List.length_drop]
  omega

/-- The digits in front of the point and those behind it are those of the mantissa. -/
theorem ofDigitChars_digits :
  Nat.ofDigitChars 10 d.placeDigits (Nat.ofDigitChars 10 d.wholeDigits 0) = d.mantissa
  := by
  rw [← Nat.ofDigitChars_append, wholeDigits, placeDigits, List.take_append_drop]
  apply digitsValue_padded

/-- A decimal without its sign is scanned back. -/
theorem scan_digits (negative : Bool) :
  scan negative false false 0 0
      (d.wholeDigits ++ if d.scale = 0 then [] else '.' :: d.placeDigits)
    = ofSigned? negative d.mantissa d.scale
  := by
  have hmantissa := d.ofDigitChars_digits
  have hlt := d.mantissa_lt
  have hwhole := le_ofDigitChars d.placeDigits (Nat.ofDigitChars 10 d.wholeDigits 0)
  rw [scan_whole negative d.numeral_wholeDigits (by omega)]
  split
  · next hscale =>
      have hplaces : d.placeDigits = [] := by
        apply List.eq_nil_of_length_eq_zero
        rw [length_placeDigits, hscale]
      rw [hplaces, Nat.ofDigitChars_nil] at hmantissa
      rw [scan, if_pos rfl, hmantissa, hscale]
  · have hscale : 0 + d.placeDigits.length ≤ maxScale := by
      rw [length_placeDigits, Nat.zero_add]
      apply d.scale_le
    have hplaces := scan_places negative (m := Nat.ofDigitChars 10 d.wholeDigits 0)
      (fun _ => d.isDigit_of_mem_placeDigits) (by omega) hscale
    rw [length_placeDigits, Nat.zero_add, hmantissa] at hplaces
    rw [← hplaces, scan]
    rfl

/-- The characters of a decimal. -/
def chars : List Char :=
  (if d.negative then ['-'] else []) ++ d.wholeDigits
    ++ if d.scale = 0 then [] else '.' :: d.placeDigits

theorem toText_eq :
  d.toText = String.ofList d.chars
  := rfl

theorem unblank_chars :
  Unblank d.chars
  := by
  have hplaces : Unblank d.placeDigits := by
    intro c hc
    apply isBlankChar_of_isDigit (d.isDigit_of_mem_placeDigits hc)
  rw [chars, unblank_append, unblank_append]
  refine ⟨⟨?_, d.numeral_wholeDigits.unblank⟩, ?_⟩
  · split
    · apply unblank_cons.mpr ⟨by decide, unblank_nil⟩
    · apply unblank_nil
  · split
    · apply unblank_nil
    · apply unblank_cons.mpr ⟨by decide, hplaces⟩

/-- A written decimal is read without the sign of a zero. -/
theorem ofText?_toText :
  ofText? d.toText = some d.unsignedZero
  := by
  have hparts : ofSigned? d.negative d.mantissa d.scale = some d.unsignedZero := by
    rw [ofSigned?, ofParts?, dif_pos ⟨d.mantissa_lt, d.scale_le⟩]
    rfl
  have hplain : ofPlain? d.chars = some d.unsignedZero := by
    rw [← hparts, ← scan_digits, chars]
    cases d.negative with
    | true => rfl
    | false =>
        obtain ⟨c, ds, hds⟩ := List.exists_cons_of_ne_nil d.numeral_wholeDigits.nonempty
        have hdigit := d.numeral_wholeDigits.digits c (by rw [hds]; apply List.mem_cons_self)
        simp only [hds, Bool.false_eq_true, if_false, List.nil_append, List.cons_append]
        rw [ofPlain?]
        · rintro r ⟨⟩
          contradiction
        · rintro r ⟨⟩
          contradiction
  rw [ofText?, toText_eq, String.toList_ofList, hplain, Option.some_or]

end BoundSql.Decimal
