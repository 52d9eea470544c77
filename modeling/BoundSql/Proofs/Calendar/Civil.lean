import BoundSql.Calendar.Date
import Mathlib.Tactic.IntervalCases
import Mathlib.Tactic.Use

/-!
# Days by year, month and day

A day of an era lies in one year of the era, a day of a year in one month of the
year. So the year, the month and the day that a number of days leads to are
those of a day of the calendar, and they lead back to the number.
-/

namespace BoundSql

namespace Civil

/-- The days of an era in front of a year. -/
def yearStart (year : Int) : Int :=
  365 * year + year / 4 - year / 100

/-- The days of an era up to a day, the leap days left out. -/
def commonDays (day : Int) : Int :=
  day - day / 1460 + day / 36524 - day / 146096

/-- The days of a year in front of a month, the first of which is March. -/
def monthStart (month : Int) : Int :=
  (153 * month + 2) / 5

/-! ### Years of an era -/

theorem commonDays_mono (d d' : Int) (h : 0 ≤ d ∧ d ≤ d' ∧ d' < 146097) :
  commonDays d ≤ commonDays d'
  := by
  obtain ⟨hd, hle, hd'⟩ := h
  have hlast : d / 36524 - d / 146096 ≤ d' / 36524 - d' / 146096 := by omega
  simp only [commonDays]
  omega

/-- Each year begins behind as many common days as the years in front of it have, and not before. -/
theorem commonDays_yearStart :
  ∀ year : Fin 400, 365 * (year : Int) ≤ commonDays (yearStart year)
    ∧ (0 < year → commonDays (yearStart year - 1) < 365 * (year : Int))
  := by decide +kernel

/-- The year of an era that a day of the era lies in. -/
theorem yearOfEra_spec {day : Int} (hday : 0 ≤ day ∧ day < 146097) :
  (0 ≤ commonDays day / 365 ∧ commonDays day / 365 < 400)
    ∧ yearStart (commonDays day / 365) ≤ day
    ∧ (commonDays day / 365 < 399 → day < yearStart (commonDays day / 365 + 1))
  := by
  have hrange : 0 ≤ commonDays day / 365 ∧ commonDays day / 365 < 400 := by
    simp only [commonDays]
    omega
  obtain ⟨y, hy⟩ := Int.eq_ofNat_of_zero_le hrange.1
  rw [hy] at hrange ⊢
  refine ⟨hrange, ?_, ?_⟩
  · -- a day in front of the year has fewer common days
    by_contra hlt
    have hpos : 0 < y := by
      by_contra hzero
      obtain rfl : y = 0 := by omega
      simp only [yearStart] at hlt
      omega
    have hbefore := (commonDays_yearStart ⟨y, by omega⟩).2 (by simpa [Fin.lt_def] using hpos)
    have hmono := commonDays_mono day (yearStart y - 1)
      ⟨hday.1, by omega, by simp only [yearStart]; omega⟩
    simp only at hbefore
    omega
  · intro hlast
    by_contra hge
    have hnext := (commonDays_yearStart ⟨y + 1, by omega⟩).1
    have hmono := commonDays_mono (yearStart (y + 1)) day
      ⟨by simp only [yearStart]; omega, by omega, hday.2⟩
    simp only [Nat.cast_add, Nat.cast_one] at hnext
    omega

/-- The last day of a long year is the leap day of the next one. -/
theorem isLeapYear_of_last (era : Int) {year day : Int} (hyear : year < 400)
    (hnext : year < 399 → day < yearStart (year + 1)) (hlast : 365 ≤ day - yearStart year) :
  isLeapYear (year + era * 400 + 1) = true
  := by
  have hfinal : year < 399 ∨ year = 399 := by omega
  simp only [yearStart] at hnext hlast
  simp only [isLeapYear, Bool.and_eq_true, Bool.or_eq_true, decide_eq_true_eq, bne_iff_ne]
  omega

end Civil

/-! ### Days in eras -/

/-- A day by its era, its year of the era, its month of the year, both counted from March, and its
day of the month. -/
structure EraDay where
  era : Int
  year : Int
  month : Int
  day : Int

namespace EraDay

open Civil

/-- The day of a number of days from the first of January 1970. -/
def ofDayNumber (n : Int) : EraDay :=
  let shifted := n + 719468
  let era := shifted / 146097
  let dayOfEra := shifted - era * 146097
  let year := commonDays dayOfEra / 365
  let dayOfYear := dayOfEra - yearStart year
  let month := (5 * dayOfYear + 2) / 153
  ⟨era, year, month, dayOfYear - monthStart month + 1⟩

/-- The number of days from the first of January 1970. -/
def dayNumber (d : EraDay) : Int :=
  d.era * 146097 + (yearStart d.year + (monthStart d.month + d.day - 1)) - 719468

/-- The year, the month and the day as the calendar counts them. -/
def civil (d : EraDay) : Civil :=
  let month := if d.month < 10 then d.month + 3 else d.month - 9
  let year := d.year + d.era * 400
  ⟨if month ≤ 2 then year + 1 else year, month.toNat, d.day.toNat⟩

/-- The day is one of its month, the month one of its year, the year one of its era. -/
structure Valid (d : EraDay) : Prop where
  year : 0 ≤ d.year ∧ d.year < 400
  month : 0 ≤ d.month ∧ d.month ≤ 11
  day : 1 ≤ d.day ∧ monthStart d.month + d.day ≤ monthStart (d.month + 1)
  leap : d.month = 11 → d.day ≤ 28 ∨ d.day = 29 ∧ isLeapYear (d.year + d.era * 400 + 1) = true

theorem valid_ofDayNumber (n : Int) :
  (ofDayNumber n).Valid
  := by
  have hday : 0 ≤ n + 719468 - (n + 719468) / 146097 * 146097
      ∧ n + 719468 - (n + 719468) / 146097 * 146097 < 146097 := by omega
  obtain ⟨hyear, hstart, hnext⟩ := yearOfEra_spec hday
  have hlast := isLeapYear_of_last ((n + 719468) / 146097) hyear.2 hnext
  simp only [ofDayNumber]
  generalize n + 719468 - (n + 719468) / 146097 * 146097 = day at *
  generalize commonDays day / 365 = year at *
  have hlong : day - yearStart year ≤ 365 := by
    simp only [yearStart] at hnext ⊢
    omega
  constructor
  · apply hyear
  · simp only
    omega
  · simp only [monthStart]
    omega
  · intro hmonth
    simp only [monthStart] at hmonth ⊢
    by_cases h : 365 ≤ day - yearStart year
    · right
      refine ⟨by omega, hlast h⟩
    · left
      omega

theorem dayNumber_ofDayNumber (n : Int) :
  (ofDayNumber n).dayNumber = n
  := by
  simp only [dayNumber, ofDayNumber]
  omega

theorem civil_ofDayNumber (n : Int) :
  (ofDayNumber n).civil = Civil.ofDayNumber n
  := rfl

variable {d : EraDay}

theorem dayNumber_civil (h : d.Valid) :
  d.civil.dayNumber = d.dayNumber
  := by
  obtain ⟨era, year, month, day⟩ := d
  obtain ⟨hyear, hmonth, hday, -⟩ := h
  simp only [civil, Civil.dayNumber, dayNumber, yearStart, monthStart] at *
  split <;> split <;> omega

/-- All months but February have the same length in every year. -/
theorem monthLength_eq {month : Int} (h : 0 ≤ month ∧ month < 11) (year : Int) :
  (monthLength year (if month < 10 then month + 3 else month - 9).toNat : Int)
    = monthStart (month + 1) - monthStart month
  := by
  obtain ⟨hlow, hhigh⟩ := h
  interval_cases month
  all_goals rfl

/-- The day is one of its month in the calendar. -/
theorem day_le_monthLength (h : d.Valid) :
  d.civil.day ≤ monthLength d.civil.year d.civil.month
  := by
  obtain ⟨-, hmonth, hday, hleap⟩ := h
  rcases Int.lt_or_eq_of_le hmonth.2 with hlt | hlast
  · have hlength := monthLength_eq ⟨hmonth.1, hlt⟩ d.civil.year
    show d.day.toNat ≤ monthLength d.civil.year
      (if d.month < 10 then d.month + 3 else d.month - 9).toNat
    omega
  · have hcivil : d.civil = ⟨d.year + d.era * 400 + 1, 2, d.day.toNat⟩ := by
      simp only [civil, hlast]
      rfl
    rw [hcivil]
    show d.day.toNat ≤ monthLength (d.year + d.era * 400 + 1) 2
    rw [monthLength, if_pos rfl]
    rcases hleap hlast with hshort | ⟨hday, hlong⟩
    · split
      · omega
      · omega
    · rw [if_pos hlong, hday]
      decide

theorem isValid_civil (h : d.Valid) :
  d.civil.isValid = true
  := by
  have hlength := day_le_monthLength h
  obtain ⟨-, hmonth, hday, -⟩ := h
  simp only [isValid, Bool.and_eq_true, decide_eq_true_eq]
  refine ⟨⟨⟨?_, ?_⟩, ?_⟩, hlength⟩
  · simp only [civil]
    split
    · omega
    · omega
  · simp only [civil]
    split
    · omega
    · omega
  · simp only [civil]
    omega

end EraDay

theorem Civil.monthLength_le (year : Int) (month : Nat) :
  monthLength year month ≤ 31
  := by
  rw [monthLength]
  split
  · split
    · decide
    · decide
  · split
    · decide
    · decide

/-- The month and the day of a date have at most two digits. -/
theorem Date.month_lt_and_day_lt (d : Date) :
  d.civil.month < 100 ∧ d.civil.day < 100
  := by
  have hvalid := EraDay.isValid_civil (EraDay.valid_ofDayNumber d.day)
  rw [EraDay.civil_ofDayNumber, ← civil] at hvalid
  have hlength := Civil.monthLength_le d.civil.year d.civil.month
  simp only [Civil.isValid, Bool.and_eq_true, decide_eq_true_eq] at hvalid
  omega

/-- A date is that of its year, month and day. -/
theorem Date.ofCivil?_civil (d : Date) :
  ofCivil? d.civil = some d
  := by
  have hvalid := EraDay.valid_ofDayNumber d.day
  rw [civil, ← EraDay.civil_ofDayNumber, ofCivil?, if_pos (EraDay.isValid_civil hvalid),
    EraDay.dayNumber_civil hvalid, EraDay.dayNumber_ofDayNumber, ofDay?,
    dif_pos ⟨d.first_le, d.le_last⟩]

end BoundSql
