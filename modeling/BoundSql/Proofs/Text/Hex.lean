import BoundSql.Proofs.Text.Numeral
import BoundSql.Text.Hex
import Mathlib.Tactic.IntervalCases

/-!
# Reading hexadecimal digits

The digits of a number are read as the number, with zeros in front of them or
without. A number in a column that is wide enough has as many digits as the
column.
-/

namespace BoundSql.Text

theorem hexDigit?_digitChar {d : Nat} (h : d < 16) :
  hexDigit? (Nat.digitChar d) = some d
  := by
  interval_cases d
  all_goals rfl

theorem hexValueFrom?_append (before : Nat) (cs ds : List Char) :
  hexValueFrom? before (cs ++ ds) = (hexValueFrom? before cs).bind (hexValueFrom? · ds)
  := by
  induction cs generalizing before with
  | nil => rfl
  | cons c cs ih =>
      rw [List.cons_append, hexValueFrom?, hexValueFrom?]
      cases hexDigit? c with
      | none => rfl
      | some d => apply ih

/-- The digits of a number are read as the number. -/
theorem hexValueFrom?_toDigits (n : Nat) :
  hexValueFrom? 0 (Nat.toDigits 16 n) = some n
  := by
  induction n using Nat.strongRecOn with
  | ind n ih =>
      have hdigit := hexDigit?_digitChar (Nat.mod_lt n (by decide : 0 < 16))
      rcases Nat.lt_or_ge n 16 with hlt | hge
      · rw [Nat.mod_eq_of_lt hlt] at hdigit
        rw [Nat.toDigits_of_lt_base hlt, hexValueFrom?, hdigit, Option.bind_some, hexValueFrom?]
        simp
      · rw [Nat.toDigits_of_base_le (by decide) hge, hexValueFrom?_append,
          ih (n / 16) (by omega), Option.bind_some, hexValueFrom?, hdigit, Option.bind_some,
          hexValueFrom?, Nat.div_add_mod]

theorem hexValueFrom?_replicate_zero (k : Nat) (cs : List Char) :
  hexValueFrom? 0 (List.replicate k '0' ++ cs) = hexValueFrom? 0 cs
  := by
  induction k with
  | zero => rfl
  | succ k ih =>
      rw [List.replicate_succ, List.cons_append, hexValueFrom?]
      apply ih

theorem hexValue?_hexPadded (width n : Nat) :
  hexValue? (hexPadded width n) = some n
  := by
  rw [hexValue?, hexPadded, hexValueFrom?_replicate_zero, hexValueFrom?_toDigits]

theorem length_hexPadded {width n : Nat} (hwidth : 0 < width) (h : n < 16 ^ width) :
  (hexPadded width n).length = width
  := by
  have hdigits := (Nat.length_toDigits_le_iff (by decide) hwidth).mpr h
  rw [hexPadded, List.length_append, List.length_replicate]
  omega

theorem unblank_toDigits (n : Nat) :
  Unblank (Nat.toDigits 16 n)
  := by
  have hdigit : ∀ d, d < 16 → isBlankChar (Nat.digitChar d) = false := by decide
  induction n using Nat.strongRecOn with
  | ind n ih =>
      rcases Nat.lt_or_ge n 16 with hlt | hge
      · rw [Nat.toDigits_of_lt_base hlt]
        apply unblank_cons.mpr ⟨hdigit n hlt, unblank_nil⟩
      · rw [Nat.toDigits_of_base_le (by decide) hge]
        apply unblank_append.mpr ⟨ih (n / 16) (by omega), unblank_cons.mpr ⟨_, unblank_nil⟩⟩
        apply hdigit (n % 16) (Nat.mod_lt n (by decide))

theorem unblank_hexPadded (width n : Nat) :
  Unblank (hexPadded width n)
  := by
  apply unblank_append.mpr ⟨_, unblank_toDigits n⟩
  intro c hc
  obtain rfl := List.eq_of_mem_replicate hc
  decide

end BoundSql.Text
