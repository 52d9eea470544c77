import BoundSql.Text.Digits

/-!
# Times of day

A time of day counts seconds from midnight and nanoseconds within the second.
A leap second prolongs a second: it is that second with a whole second more of
nanoseconds, and it is written as the second after it. At the end of a minute
this is second 60.
-/

namespace BoundSql

open BoundSql.Text

/-- Nanoseconds in a second. -/
def TimeOfDay.billion : Nat := 1000000000

/-- Seconds from midnight and nanoseconds, a leap second counted in the nanoseconds. -/
structure TimeOfDay where
  second : Nat
  nano : Nat
  second_lt : second < 86400
  nano_lt : nano < 2 * TimeOfDay.billion
  deriving DecidableEq, Repr

namespace TimeOfDay

/-- The start of the day. -/
def midnight : TimeOfDay :=
  ⟨0, 0, by decide, by decide⟩

/-- The time of a count of seconds and nanoseconds, when they are in range. -/
def ofSecond? (second nano : Nat) : Option TimeOfDay :=
  if h : second < 86400 ∧ nano < 2 * billion then some ⟨second, nano, h.1, h.2⟩ else none

/-- The time of an hour, a minute, a second and nanoseconds; second 60 is the leap second. -/
def ofClock? (hour minute second nano : Nat) : Option TimeOfDay :=
  if hour < 24 ∧ minute < 60 ∧ second ≤ 60 ∧ nano < billion then
    if second = 60 then ofSecond? (3600 * hour + 60 * minute + 59) (nano + billion)
    else ofSecond? (3600 * hour + 60 * minute + second) nano
  else none

/-- The second of the minute as it is written. -/
def writtenSecond (t : TimeOfDay) : Nat :=
  t.second % 60 + t.nano / billion

/-- Whether the time lies in a leap second. -/
def isLeap (t : TimeOfDay) : Bool :=
  billion ≤ t.nano

/-- The fraction of a second: none when it is zero, else three, six or nine digits. -/
def fractionChars (nano : Nat) : List Char :=
  if nano = 0 then []
  else if nano % 1000000 = 0 then '.' :: padded 3 (nano / 1000000)
  else if nano % 1000 = 0 then '.' :: padded 6 (nano / 1000)
  else '.' :: padded 9 nano

/-- The hour, minute and second, joined by colons, and the fraction. -/
def chars (t : TimeOfDay) : List Char :=
  padded 2 (t.second / 3600) ++ ':' :: padded 2 (t.second / 60 % 60)
    ++ ':' :: padded 2 t.writtenSecond ++ fractionChars (t.nano % billion)

end TimeOfDay

end BoundSql
