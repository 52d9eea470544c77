import BoundSql.Binary.Spelling
import BoundSql.Proofs.Text.Numeral
import Mathlib.Tactic.Use

/-!
# Integers written as doubles

The digits of a number times a power of ten are those of the number, with zeros
behind them. So a double is written in plain digits like an integer exactly when
its shortest digits, times their power of ten, are the integer.
-/

namespace BoundSql

open BoundSql.Text

namespace Text

/-- The digits of a number times a power of ten have zeros behind those of the number. -/
theorem digits_mul_pow {n : Nat} (hn : 0 < n) (k : Nat) :
  digits (n * 10 ^ k) = digits n ++ List.replicate k '0'
  := by
  induction k with
  | zero => rw [Nat.pow_zero, Nat.mul_one, List.replicate_zero, List.append_nil]
  | succ k ih =>
      have hpos : 0 < n * 10 ^ k := Nat.mul_pos hn (Nat.pow_pos (by decide))
      have hlast := Nat.toDigits_append_toDigits (b := 10) (by decide) hpos (by decide : 0 < 10)
      rw [List.replicate_succ', ← List.append_assoc, ← ih, digits, digits, Nat.pow_succ,
        ← Nat.mul_assoc, Nat.mul_comm _ 10]
      apply hlast.symm

theorem digitsValue_append_zeros (ds : List Char) (k : Nat) :
  digitsValue (ds ++ List.replicate k '0') = digitsValue ds * 10 ^ k
  := by
  rw [digitsValue, Nat.ofDigitChars_append, Nat.ofDigitChars_replicate_zero, Nat.mul_comm]
  rfl

theorem integerText_natCast (n : Nat) :
  integerText n = String.ofList (digits n)
  := by
  rw [integerText, if_neg (by omega), decimalText, Int.natAbs_natCast]

theorem not_mem_digits (n : Nat) :
  '.' ∉ digits n
  := by
  intro h
  have hdigit := isDigit_of_mem_digits h
  contradiction

end Text

namespace Binary

variable {d : Decimals} {n : Nat}

/-- The digits times their power of ten are an integer. -/
def Decimals.Are (d : Decimals) (n : Nat) : Prop :=
  0 ≤ d.exponent ∧ d.digits * 10 ^ d.exponent.toNat = n

/-- Digits are written positionally like an integer exactly when they are the integer. -/
theorem positional_eq_digits_iff (hn : 0 < n) :
  positional false (digits d.digits) (d.exponent + (digits d.digits).length) = digits n ↔ d.Are n
  := by
  have hlength : 0 < (digits d.digits).length :=
    List.length_pos_iff.mpr (digits_ne_nil d.digits)
  rcases Int.lt_or_le d.exponent 0 with hneg | hnonneg
  · -- a point stands among the digits
    have hpoint : '.' ∈ positional false (digits d.digits)
        (d.exponent + (digits d.digits).length) := by
      rw [positional]
      split
      · simp
      · rw [if_neg (by omega)]
        simp
    constructor
    · intro h
      rw [h] at hpoint
      apply absurd hpoint (not_mem_digits n)
    · rintro ⟨hexponent, _⟩
      omega
  · have hzeros : (d.exponent + (digits d.digits).length).toNat - (digits d.digits).length
        = d.exponent.toNat := by omega
    have hwritten : positional false (digits d.digits) (d.exponent + (digits d.digits).length)
        = digits d.digits ++ List.replicate d.exponent.toNat '0' := by
      rw [positional, if_neg (by omega), if_pos (by omega), hzeros, if_neg Bool.false_ne_true,
        List.append_nil]
    rw [hwritten]
    constructor
    · intro h
      have hvalue := congrArg digitsValue h
      rw [digitsValue_append_zeros, digitsValue_digits, digitsValue_digits] at hvalue
      use hnonneg, hvalue
    · rintro ⟨_, rfl⟩
      rw [digits_mul_pow (Nat.pos_of_mul_pos_right hn)]

/-- A positive double is written in plain digits like an integer exactly when its shortest digits
are the integer. -/
theorem write_plain_eq_iff {x : Double} {m : Nat} {q : Int}
    (hx : x.reading = .finite false m q) (hm : m ≠ 0) (hn : 0 < n) :
  Spelling.plain.write x = integerText n ↔ (shortest .up m q).Are n
  := by
  obtain ⟨m, rfl⟩ := Nat.exists_eq_succ_of_ne_zero hm
  have hlead : (shortest .up (m + 1) q).exponent + (digits (shortest .up (m + 1) q).digits).length
      - 1 + 1 = (shortest .up (m + 1) q).exponent
        + (digits (shortest .up (m + 1) q).digits).length := by omega
  have hwritten : Spelling.plain.write x = String.ofList (positional false
      (digits (shortest .up (m + 1) q).digits) ((shortest .up (m + 1) q).exponent
        + (digits (shortest .up (m + 1) q).digits).length)) := by
    rw [Spelling.write, hx, ← hlead]
    rfl
  rw [hwritten, integerText_natCast, String.ofList_inj, positional_eq_digits_iff hn]

end Binary

end BoundSql
