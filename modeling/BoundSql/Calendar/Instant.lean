import BoundSql.Calendar.Pattern

/-!
# Instants

An instant is written with full columns, a T or a space between date and
time, and an offset. A text without an offset is taken in UTC, and a date
alone stands for its midnight.
-/

namespace BoundSql

open BoundSql.Text

/-- The number of exactly `width` digits at the head of a text, and what follows. -/
def takeColumn? (width : Nat) (cs : List Char) : Option (Nat × List Char) :=
  match takeDigits width cs with
  | (ds, rest) => if ds.length = width then some (digitsValue ds, rest) else none

/-- The text behind a fixed character. -/
def takeChar? (c : Char) : List Char → Option (List Char)
  | [] => none
  | x :: r => if x = c then some r else none

namespace Instant

/-- The largest offset in seconds. -/
def maxOffset : Nat := (23 * 60 + 59) * 60

/-- The offset at the end of an instant, in seconds east of UTC. -/
def offset? (cs : List Char) : Option Int :=
  let magnitude (r : List Char) : Option Nat := do
    let (hours, r) ← takeColumn? 2 r
    let r ← takeChar? ':' r
    let (minutes, r) ← takeColumn? 2 r
    if r = [] ∧ minutes < 60 ∧ hours * 3600 + minutes * 60 ≤ maxOffset then
      some (hours * 3600 + minutes * 60)
    else none
  match cs with
  | ['Z'] => some 0
  | ['z'] => some 0
  | '+' :: r => (magnitude r).map fun n => n
  | '-' :: r => (magnitude r).map fun n => -n
  | '\u2212' :: r => (magnitude r).map fun n => -n
  | _ => none

/-- The fraction of a second, if a point opens one. -/
def fraction? (cs : List Char) : Option (Nat × List Char) :=
  match cs with
  | '.' :: r => takeNanos? r
  | _ => some (0, cs)

/-- The instant that a text with an offset denotes, in UTC. -/
def ofOffsetChars? (cs : List Char) : Option Timestamp := do
  let (year, r) ← takeColumn? 4 cs
  let r ← takeChar? '-' r
  let (month, r) ← takeColumn? 2 r
  let r ← takeChar? '-' r
  let (day, r) ← takeColumn? 2 r
  let r ← (takeChar? 'T' r).or ((takeChar? 't' r).or (takeChar? ' ' r))
  let (hour, r) ← takeColumn? 2 r
  let r ← takeChar? ':' r
  let (minute, r) ← takeColumn? 2 r
  let r ← takeChar? ':' r
  let (second, r) ← takeColumn? 2 r
  let (nano, r) ← fraction? r
  let offset ← offset? r
  let wall ← ({ year, month, day, hour, minute, second, nano } : ClockFields).timestamp?
  wall.minus? offset

/-- The instant that a text denotes: one with an offset, a date with a time, or a date. -/
def ofChars? (cs : List Char) : Option Timestamp :=
  (ofOffsetChars? cs).or ((Timestamp.ofChars? cs).or ((Date.ofChars? cs).map Date.midnight))

end Instant

end BoundSql
