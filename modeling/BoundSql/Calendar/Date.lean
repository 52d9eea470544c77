import BoundSql.Text.Digits

/-!
# Dates

A date is a day of the proleptic Gregorian calendar, counted from the first
of January 1970. The count determines the year, the month and the day of the
month: days are counted in eras of 400 years that begin on the first of
March, so that the leap day is the last day of its year.
-/

namespace BoundSql

open BoundSql.Text

/-- The first day, the first of January of the year -262143. -/
def Date.firstDay : Int := -96465292

/-- The last day, the last of December of the year 262142. -/
def Date.lastDay : Int := 95026236

/-- A day, counted from the first of January 1970. -/
structure Date where
  day : Int
  first_le : Date.firstDay ≤ day
  le_last : day ≤ Date.lastDay
  deriving DecidableEq, Repr

/-- A year, a month and a day of the month. -/
structure Civil where
  year : Int
  month : Nat
  day : Nat
  deriving DecidableEq, Repr

namespace Civil

/-- Whether a year has a leap day. -/
def isLeapYear (year : Int) : Bool :=
  year % 4 = 0 && (year % 100 != 0 || year % 400 = 0)

/-- The number of days of a month. -/
def monthLength (year : Int) (month : Nat) : Nat :=
  if month = 2 then if isLeapYear year then 29 else 28
  else if month = 4 ∨ month = 6 ∨ month = 9 ∨ month = 11 then 30
  else 31

/-- Whether the month is one of twelve and the day one of the month. -/
def isValid (c : Civil) : Bool :=
  1 ≤ c.month && c.month ≤ 12 && 1 ≤ c.day && c.day ≤ monthLength c.year c.month

/-- The number of days from the first of January 1970. -/
def dayNumber (c : Civil) : Int :=
  let year := if c.month ≤ 2 then c.year - 1 else c.year
  let era := year / 400
  let yearOfEra := year - era * 400
  let monthOfYear : Int := if 2 < c.month then c.month - 3 else c.month + 9
  let dayOfYear := (153 * monthOfYear + 2) / 5 + c.day - 1
  let dayOfEra := yearOfEra * 365 + yearOfEra / 4 - yearOfEra / 100 + dayOfYear
  era * 146097 + dayOfEra - 719468

/-- The year, month and day that a number of days from the first of January 1970 leads to. -/
def ofDayNumber (n : Int) : Civil :=
  let shifted := n + 719468
  let era := shifted / 146097
  let dayOfEra := shifted - era * 146097
  let yearOfEra := (dayOfEra - dayOfEra / 1460 + dayOfEra / 36524 - dayOfEra / 146096) / 365
  let dayOfYear := dayOfEra - (365 * yearOfEra + yearOfEra / 4 - yearOfEra / 100)
  let monthOfYear := (5 * dayOfYear + 2) / 153
  let day := dayOfYear - (153 * monthOfYear + 2) / 5 + 1
  let month := if monthOfYear < 10 then monthOfYear + 3 else monthOfYear - 9
  let year := yearOfEra + era * 400
  ⟨if month ≤ 2 then year + 1 else year, month.toNat, day.toNat⟩

/-- The year in at least four digits; outside 0 to 9999 it carries its sign. -/
def yearChars (year : Int) : List Char :=
  let ds := padded 4 year.natAbs
  if year < 0 then '-' :: ds else if 9999 < year then '+' :: ds else ds

/-- The year, the month and the day, joined by hyphens. -/
def chars (c : Civil) : List Char :=
  yearChars c.year ++ '-' :: padded 2 c.month ++ '-' :: padded 2 c.day

end Civil

namespace Date

/-- The date of a number of days from the first of January 1970. -/
def ofDay? (n : Int) : Option Date :=
  if h : firstDay ≤ n ∧ n ≤ lastDay then some ⟨n, h.1, h.2⟩ else none

/-- The date of a year, a month and a day. -/
def ofCivil? (c : Civil) : Option Date :=
  if c.isValid then ofDay? c.dayNumber else none

/-- The year, the month and the day of a date. -/
def civil (d : Date) : Civil :=
  Civil.ofDayNumber d.day

/-- The text of a date. -/
def toText (d : Date) : String :=
  String.ofList d.civil.chars

end Date

end BoundSql
