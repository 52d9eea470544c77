import BoundSql.Calendar.Timestamp
import BoundSql.Text.Blank

/-!
# Patterns of dates and times

A pattern is a list of fields, fixed characters and spaces. White space may
stand before every number, a space of the pattern stands for any white space
or none, and the whole text has to be used up. A year with a sign has any
number of digits, one without at most four, and the other numbers at most
two. Of a fraction nine digits count.
-/

namespace BoundSql

open BoundSql.Text

/-- One item of a pattern. -/
inductive PatternItem where
  | year
  | month
  | day
  | hour
  | minute
  | second
  | fraction
  | literal (c : Char)
  | space
  deriving DecidableEq, Repr

/-- The fields that a pattern has read; those it does not have stay at zero. -/
structure ClockFields where
  year : Int := 0
  month : Nat := 0
  day : Nat := 0
  hour : Nat := 0
  minute : Nat := 0
  second : Nat := 0
  nano : Nat := 0
  deriving DecidableEq, Repr

namespace ClockFields

/-- The date of the fields. -/
def date? (f : ClockFields) : Option Date :=
  Date.ofCivil? ⟨f.year, f.month, f.day⟩

/-- The date and the time of the fields. -/
def timestamp? (f : ClockFields) : Option Timestamp :=
  match f.date?, TimeOfDay.ofClock? f.hour f.minute f.second f.nano with
  | some d, some t => some ⟨d, t⟩
  | _, _ => none

end ClockFields

/-- A number of at least one and at most `limit` digits, and what follows it. -/
def takeNumber? (limit : Nat) (cs : List Char) : Option (Nat × List Char) :=
  match takeDigits limit cs with
  | ([], _) => none
  | (ds, rest) => some (digitsValue ds, rest)

/-- The nanoseconds of at least one digit of a fraction, and what follows all its digits. -/
def takeNanos? (cs : List Char) : Option (Nat × List Char) :=
  match takeDigits 9 cs with
  | ([], _) => none
  | (ds, rest) => some (digitsValue ds * Nat.pow 10 (9 - ds.length), rest.dropWhile Char.isDigit)

/-- A year: any number of digits after a sign, else at most four. -/
def takeYear? (cs : List Char) : Option (Int × List Char) :=
  match cs with
  | '-' :: r => (takeNumber? r.length r).map fun (n, rest) => (-(n : Int), rest)
  | '+' :: r => (takeNumber? r.length r).map fun (n, rest) => (n, rest)
  | _ => (takeNumber? 4 cs).map fun (n, rest) => (n, rest)

/-- The text behind one item, with the field that the item has set. -/
def PatternItem.take? (item : PatternItem) (f : ClockFields) (cs : List Char) :
    Option (ClockFields × List Char) :=
  let number := takeNumber? 2 (dropBlanks cs)
  match item with
  | .year => (takeYear? (dropBlanks cs)).map fun (n, r) => ({ f with year := n }, r)
  | .month => number.map fun (n, r) => ({ f with month := n }, r)
  | .day => number.map fun (n, r) => ({ f with day := n }, r)
  | .hour => number.map fun (n, r) => ({ f with hour := n }, r)
  | .minute => number.map fun (n, r) => ({ f with minute := n }, r)
  | .second => number.map fun (n, r) => ({ f with second := n }, r)
  | .fraction =>
    match cs with
    | '.' :: r => (takeNanos? r).map fun (n, r) => ({ f with nano := n }, r)
    | _ => some (f, cs)
  | .literal c =>
    match cs with
    | x :: r => if x = c then some (f, r) else none
    | [] => none
  | .space => some (f, dropBlanks cs)

/-- The fields that a pattern finds at the head of a text, and what follows. -/
def takePattern? : List PatternItem → ClockFields → List Char → Option (ClockFields × List Char)
  | [], f, cs => some (f, cs)
  | item :: items, f, cs => (item.take? f cs).bind fun (f, r) => takePattern? items f r

/-- The fields that a pattern finds in the whole of a text. -/
def readPattern? (items : List PatternItem) (cs : List Char) : Option ClockFields :=
  (takePattern? items {} cs).bind fun (f, r) => if r.isEmpty then some f else none

namespace Pattern

/-- Year, month and day with a separator. -/
def date (separator : Char) : List PatternItem :=
  [.year, .literal separator, .month, .literal separator, .day]

/-- Year, month and day without separators. -/
def compactDate : List PatternItem :=
  [.year, .month, .day]

/-- Hour and minute. -/
def minutes : List PatternItem :=
  [.hour, .literal ':', .minute]

/-- Hour, minute, second and fraction. -/
def seconds : List PatternItem :=
  minutes ++ [.literal ':', .second, .fraction]

/-- The forms of a date, in the order in which they are tried. -/
def dates : List (List PatternItem) :=
  [date '-', date '/', compactDate]

/-- The forms of a date with a time, in the order in which they are tried. -/
def timestamps : List (List PatternItem) :=
  [date '-' ++ .literal 'T' :: seconds,
   date '-' ++ .space :: seconds,
   date '-' ++ .literal 'T' :: minutes,
   date '-' ++ .space :: minutes,
   date '/' ++ .space :: seconds,
   date '/' ++ .space :: minutes]

end Pattern

/-- The date that a text denotes in the first form that fits. -/
def Date.ofChars? (cs : List Char) : Option Date :=
  Pattern.dates.findSome? fun p => (readPattern? p cs).bind ClockFields.date?

/-- The timestamp that a text denotes in the first form that fits. -/
def Timestamp.ofChars? (cs : List Char) : Option Timestamp :=
  Pattern.timestamps.findSome? fun p => (readPattern? p cs).bind ClockFields.timestamp?

end BoundSql
