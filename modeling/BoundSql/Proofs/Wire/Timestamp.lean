import BoundSql.Proofs.Calendar.Instant
import BoundSql.Wire.Parameter

/-!
# Timestamps by microseconds

A timestamp is sent as a count of microseconds from the start of 2000, for
which 64 bits have room. A whole number of microseconds leads back to the
timestamp, and every count leads to some timestamp unless it comes from a leap
second, which may be the last second of all.
-/

namespace BoundSql

open Wire

/-- The time is a whole number of microseconds and lies in no leap second. -/
def TimeOfDay.HasWholeMicros (t : TimeOfDay) : Prop :=
  t.isLeap = false ∧ t.nano % 1000 = 0

instance (t : TimeOfDay) : Decidable t.HasWholeMicros :=
  inferInstanceAs (Decidable (_ ∧ _))

theorem TimeOfDay.nano_lt_of_isLeap_eq_false {t : TimeOfDay} (h : t.isLeap = false) :
  t.nano < 1000000000
  := by
  rw [isLeap, decide_eq_false_iff_not] at h
  apply Nat.lt_of_not_le h

namespace Timestamp

theorem ofUnix?_unixSecond (t : Timestamp) :
  ofUnix? t.unixSecond t.time.nano = some t
  := by
  have hback := t.minus?_zero
  rw [minus?, Int.sub_zero] at hback
  apply hback

/-- The seconds of a timestamp lie between the first day and the last one. -/
theorem unixSecond_bounds (t : Timestamp) :
  86400 * Date.firstDay ≤ t.unixSecond ∧ t.unixSecond < 86400 * (Date.lastDay + 1)
  := by
  have hfirst := t.date.first_le
  have hlast := t.date.le_last
  have hsecond := t.time.second_lt
  simp only [unixSecond]
  omega

/-- Nanoseconds from the start of 2000, a leap second counted as the second after it. -/
def nanos (t : Timestamp) : Int :=
  (t.unixSecond - 86400 * epochDay) * 1000000000 + t.time.nano

theorem micros_eq (t : Timestamp) :
  t.micros = t.nanos.tdiv 1000
  := rfl

/-- The microseconds are the nanoseconds cut towards the start of 2000. -/
theorem micros_cut (t : Timestamp) :
  (0 ≤ t.micros ∧ 1000 * t.micros ≤ t.nanos ∧ t.nanos < 1000 * (t.micros + 1))
    ∨ (t.micros ≤ 0 ∧ t.nanos ≤ 1000 * t.micros ∧ 1000 * (t.micros - 1) < t.nanos)
  := by
  rw [micros_eq, Int.tdiv_eq_ediv, show Int.sign 1000 = 1 from rfl]
  split
  · omega
  · omega

/-- A count of microseconds fits into 64 bits. -/
theorem micros_bounds (t : Timestamp) :
  -(Nat.pow 256 8 : Int) ≤ 2 * t.micros ∧ 2 * t.micros < Nat.pow 256 8
  := by
  have hsecond := t.unixSecond_bounds
  have hnano : t.time.nano < 2000000000 := t.time.nano_lt
  have hmodulus : ((Nat.pow 256 8 : Nat) : Int) = 18446744073709551616 := by decide
  have hcut := t.micros_cut
  simp only [Date.firstDay, Date.lastDay, nanos, epochDay] at hsecond hcut
  rw [hmodulus]
  omega

/-- A timestamp in whole microseconds is that of its count of microseconds. -/
theorem ofMicros?_micros {t : Timestamp} (h : t.time.HasWholeMicros) :
  ofMicros? t.micros = some t
  := by
  obtain ⟨hleap, hwhole⟩ := h
  have hnano := TimeOfDay.nano_lt_of_isLeap_eq_false hleap
  have hmicros : t.micros
      = (t.unixSecond - 86400 * epochDay) * 1000000 + (t.time.nano / 1000 : Nat) := by
    have hcut := t.micros_cut
    simp only [nanos] at hcut
    omega
  have hsecond : 86400 * epochDay + t.micros / 1000000 = t.unixSecond := by omega
  have hrest : 1000 * (t.micros % 1000000).toNat = t.time.nano := by omega
  rw [ofMicros?, hsecond, hrest, ofUnix?_unixSecond]

/-- A count of microseconds that comes from no leap second is that of a timestamp. -/
theorem exists_ofMicros?_micros {t : Timestamp} (h : t.time.isLeap = false) :
  ∃ t', ofMicros? t.micros = some t'
  := by
  have hsecond := t.unixSecond_bounds
  have hnano := TimeOfDay.nano_lt_of_isLeap_eq_false h
  -- cut towards the start of 2000, the count stays between it and the timestamp
  have hday : Date.firstDay ≤ (86400 * epochDay + t.micros / 1000000) / 86400
      ∧ (86400 * epochDay + t.micros / 1000000) / 86400 ≤ Date.lastDay := by
    have hcut := t.micros_cut
    simp only [Date.firstDay, Date.lastDay, nanos, epochDay] at hsecond hcut ⊢
    omega
  have htime : ((86400 * epochDay + t.micros / 1000000) % 86400).toNat < 86400
      ∧ 1000 * (t.micros % 1000000).toNat < 2 * TimeOfDay.billion := by
    simp only [TimeOfDay.billion]
    omega
  rw [ofMicros?, ofUnix?, Date.ofDay?, dif_pos hday, TimeOfDay.ofSecond?, dif_pos htime]
  apply Exists.intro
  rfl

end Timestamp

end BoundSql
