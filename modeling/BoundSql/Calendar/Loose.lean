import BoundSql.Calendar.Instant

/-!
# Loose forms of dates and times

A record gives each date and time in one form, in which blanks may stand
between the parts. An instant has an offset, with or without a colon, or the
letters UTC in its place.
-/

namespace BoundSql

open BoundSql.Text

namespace Pattern

/-- Year, month and day with room around the hyphens. -/
def looseDate : List PatternItem :=
  [.year, .space, .literal '-', .month, .space, .literal '-', .day]

/-- Hour, minute, second and fraction with room around the colons. -/
def looseSeconds : List PatternItem :=
  [.hour, .space, .literal ':', .minute, .space, .literal ':', .second, .fraction, .space]

end Pattern

/-- The date that a text denotes in its loose form. -/
def Date.ofLooseChars? (cs : List Char) : Option Date :=
  (readPattern? (Pattern.looseDate ++ [.space]) cs).bind ClockFields.date?

/-- The timestamp that a text denotes in its loose form. -/
def Timestamp.ofLooseChars? (cs : List Char) : Option Timestamp :=
  (readPattern? (Pattern.looseDate ++ .space :: .literal 'T' :: Pattern.looseSeconds) cs).bind
    ClockFields.timestamp?

namespace Instant

/-- An offset in hours and minutes, in seconds, and what follows it. -/
def looseMagnitude? (cs : List Char) : Option (Nat × List Char) := do
  let (hours, r) ← takeColumn? 2 cs
  let (minutes, r) ← takeColumn? 2 (r.dropWhile fun c => c = ':' || isBlankChar c)
  let offset := hours * 3600 + minutes * 60
  if minutes < 60 ∧ offset ≤ maxOffset then some (offset, r) else none

/-- The offset at the end of an instant in its loose form, in seconds east of UTC. -/
def looseOffset? (cs : List Char) : Option (Int × List Char) :=
  if (cs.take 3).map Char.toLower = ['u', 't', 'c'] then some (0, cs.drop 3)
  else match cs with
    | 'Z' :: r => some (0, r)
    | 'z' :: r => some (0, r)
    | '+' :: r => (looseMagnitude? r).map fun (n, rest) => (n, rest)
    | '-' :: r => (looseMagnitude? r).map fun (n, rest) => (-n, rest)
    | '\u2212' :: r => (looseMagnitude? r).map fun (n, rest) => (-n, rest)
    | _ => none

/-- The instant that a text denotes in its loose form, in UTC. -/
def ofLooseChars? (cs : List Char) : Option Timestamp := do
  let (date, r) ← takePattern? Pattern.looseDate {} cs
  let r ← (takeChar? 'T' r).or ((takeChar? 't' r).or (takeChar? ' ' r))
  let (fields, r) ← takePattern? Pattern.looseSeconds date r
  let (offset, r) ← looseOffset? r
  if r.all isBlankChar then (← fields.timestamp?).minus? offset else none

end Instant

end BoundSql
