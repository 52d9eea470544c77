import BoundSql.Binary.Literal
import BoundSql.Calendar.Instant
import BoundSql.Text.Hex
import BoundSql.Toml.Basic

/-!
# Plain values of a document

A value without quotes or brackets is a word: a truth value, a number or a
date with or without a time. Underscores may stand between two digits, an
integer has no leading zeros, and a number has to be in range.
-/

namespace BoundSql.Toml

open BoundSql.Text

/-- The digits of a text in which single underscores may stand between digits. -/
def digitsOf? (isDigit : Char → Bool) : List Char → Option (List Char)
  | [] => none
  | [c] => if isDigit c then some [c] else none
  | c :: '_' :: r => if isDigit c then (digitsOf? isDigit r).map (c :: ·) else none
  | c :: r => if isDigit c then (digitsOf? isDigit r).map (c :: ·) else none

/-- The digits of a decimal number without leading zeros. -/
def wholeDigits? (cs : List Char) : Option (List Char) :=
  (digitsOf? Char.isDigit cs).filter fun ds => ds.length = 1 || ds.head? != some '0'

/-- The number of digits in a base. -/
def numberIn? (base : Nat) (cs : List Char) : Option Nat :=
  (digitsOf? (fun c => (hexDigit? c).any (· < base)) cs).map fun ds =>
    ds.foldl (fun n c => base * n + (hexDigit? c).getD 0) 0

/-- An integer within 128 bits, with or without a sign. -/
def inRange? (n : Int) : Option Int :=
  if -(Nat.pow 2 127 : Int) ≤ n ∧ n < Nat.pow 2 128 then some n else none

/-- The integer that a word denotes; only a decimal one may have a sign. -/
def integer? : List Char → Option Int
  | '0' :: 'x' :: r => (numberIn? 16 r).bind fun n => inRange? n
  | '0' :: 'o' :: r => (numberIn? 8 r).bind fun n => inRange? n
  | '0' :: 'b' :: r => (numberIn? 2 r).bind fun n => inRange? n
  | cs =>
    let (negative, r) := Double.takeSign cs
    (wholeDigits? r).bind fun ds =>
      let n : Int := digitsValue ds
      inRange? (if negative then -n else n)

/-- The digits of an exponent with its sign. -/
def exponentDigits? (cs : List Char) : Option (List Char) :=
  let (negative, r) := Double.takeSign cs
  (digitsOf? Char.isDigit r).map fun ds => if negative then '-' :: ds else ds

/-- An unsigned numeral with a fraction or an exponent, without its underscores. -/
def numeral? (cs : List Char) : Option (List Char) := do
  let isMark (c : Char) : Bool := c = 'e' || c = 'E'
  let mantissa := cs.takeWhile (!isMark ·)
  let whole ← wholeDigits? (mantissa.takeWhile (· != '.'))
  let fraction ← match mantissa.dropWhile (· != '.') with
    | [] => some []
    | _ :: r => (digitsOf? Char.isDigit r).map ('.' :: ·)
  let exponent ← match cs.dropWhile (!isMark ·) with
    | [] => some []
    | _ :: r => (exponentDigits? r).map ('e' :: ·)
  if fraction = [] ∧ exponent = [] then none else some (whole ++ fraction ++ exponent)

/-- The double that a word denotes; a numeral has to be in range. -/
def float? (cs : List Char) : Option Double :=
  let (negative, r) := Double.takeSign cs
  if r = ['i', 'n', 'f'] then some (.infinity negative)
  else if r = ['n', 'a', 'n'] then some (.ofMagnitude negative Binary.double.nan)
  else (numeral? r).bind fun ds => (Double.ofNumeral? negative ds).filter Double.isFinite

/-- What follows a date at the head of a text. -/
def afterDate? (cs : List Char) : Option (List Char) := do
  let (year, r) ← takeColumn? 4 cs
  let r ← takeChar? '-' r
  let (month, r) ← takeColumn? 2 r
  let r ← takeChar? '-' r
  let (day, r) ← takeColumn? 2 r
  if (⟨year, month, day⟩ : Civil).isValid then some r else none

/-- What follows the seconds of a time, which may be left out. -/
def afterSeconds? (cs : List Char) : Option (List Char) :=
  match takeChar? ':' cs with
  | none => some cs
  | some r => do
    let (second, r) ← takeColumn? 2 r
    if 60 < second then none
    else match takeChar? '.' r with
      | none => some r
      | some r => if (r.head?.any Char.isDigit) then some (r.dropWhile Char.isDigit) else none

/-- What follows a time of day at the head of a text. -/
def afterTime? (cs : List Char) : Option (List Char) := do
  let (hour, r) ← takeColumn? 2 cs
  let r ← takeChar? ':' r
  let (minute, r) ← takeColumn? 2 r
  if hour < 24 ∧ minute < 60 then afterSeconds? r else none

/-- Whether a text is a date, a time, or a date with a time and perhaps an offset. -/
def isTime (cs : List Char) : Bool :=
  match afterDate? cs with
  | none => afterTime? cs = some []
  | some [] => true
  | some (c :: r) =>
    (c = 'T' || c = 't' || c = ' ') &&
      (afterTime? r).any fun rest => rest = [] || (Instant.offset? rest).isSome

/-- The value of a word. -/
def ofWord? (cs : List Char) : Option Toml :=
  if cs = ['t', 'r', 'u', 'e'] then some (.bool true)
  else if cs = ['f', 'a', 'l', 's', 'e'] then some (.bool false)
  else if isTime cs then some (.time (String.ofList cs))
  else ((integer? cs).map .integer).or ((float? cs).map .float)

end BoundSql.Toml
