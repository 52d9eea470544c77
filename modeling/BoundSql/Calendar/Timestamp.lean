import BoundSql.Calendar.Date
import BoundSql.Calendar.TimeOfDay

/-!
# Timestamps

A timestamp is a date and a time of day. Read as an instant it is taken in
UTC, and an instant given at an offset is moved there.
-/

namespace BoundSql

/-- A date and a time of day. -/
structure Timestamp where
  date : Date
  time : TimeOfDay
  deriving DecidableEq, Repr

/-- The start of a date. -/
def Date.midnight (d : Date) : Timestamp :=
  ⟨d, .midnight⟩

namespace Timestamp

/-- The seconds from the start of 1970, a leap second left out. -/
def unixSecond (t : Timestamp) : Int :=
  86400 * t.date.day + t.time.second

/-- The timestamp of a number of seconds from the start of 1970 and of nanoseconds. -/
def ofUnix? (second : Int) (nano : Nat) : Option Timestamp :=
  match Date.ofDay? (second / 86400), TimeOfDay.ofSecond? (second % 86400).toNat nano with
  | some d, some t => some ⟨d, t⟩
  | _, _ => none

/-- The timestamp moved back by an offset in seconds. -/
def minus? (t : Timestamp) (offset : Int) : Option Timestamp :=
  ofUnix? (t.unixSecond - offset) t.time.nano

/-- The date and the time with a separator between them. -/
def chars (separator : Char) (t : Timestamp) : List Char :=
  t.date.civil.chars ++ separator :: t.time.chars

/-- The date, the letter T and the time. -/
def toText (t : Timestamp) : String :=
  String.ofList (t.chars 'T')

/-- The date, a space and the time. -/
def toSpacedText (t : Timestamp) : String :=
  String.ofList (t.chars ' ')

/-- The instant in UTC with its offset in digits. -/
def toOffsetText (t : Timestamp) : String :=
  String.ofList (t.chars 'T' ++ ['+', '0', '0', ':', '0', '0'])

/-- The instant in UTC with its offset as the letter Z. -/
def toZuluText (t : Timestamp) : String :=
  String.ofList (t.chars 'T' ++ ['Z'])

end Timestamp

end BoundSql
