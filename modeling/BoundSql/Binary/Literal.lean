import BoundSql.Binary.Double
import BoundSql.Text.Digits

/-!
# Texts of doubles

A double is read from an optional sign and either a name of a special value,
in any letter case, or digits with an optional point and an optional
exponent. At least one digit stands in front of the exponent, and at least
one in it.
-/

namespace BoundSql.Double

open BoundSql.Text

/-- An optional sign and what follows it. -/
def takeSign : List Char → Bool × List Char
  | '-' :: r => (true, r)
  | '+' :: r => (false, r)
  | cs => (false, cs)

/-- The exponent at the end of a numeral, zero when there is none. -/
def exponentOf? : List Char → Option Int
  | [] => some 0
  | c :: r =>
    if c = 'e' ∨ c = 'E' then
      let (negative, ds) := takeSign r
      if ds ≠ [] ∧ ds.all Char.isDigit then
        some (if negative then -(digitsValue ds : Int) else digitsValue ds)
      else none
    else none

/-- The double that an unsigned numeral denotes, with a sign. -/
def ofNumeral? (negative : Bool) (cs : List Char) : Option Double :=
  let whole := cs.takeWhile Char.isDigit
  let rest := cs.dropWhile Char.isDigit
  let (fraction, rest) := match rest with
    | '.' :: r => (r.takeWhile Char.isDigit, r.dropWhile Char.isDigit)
    | _ => ([], rest)
  if whole ++ fraction = [] then none
  else (exponentOf? rest).map fun e =>
    ofDecimal negative (digitsValue (whole ++ fraction)) (e - fraction.length)

/-- The double that a text denotes. -/
def ofText? (s : String) : Option Double :=
  let (negative, cs) := takeSign s.toList
  let name := String.ofList (cs.map Char.toLower)
  if name = "inf" ∨ name = "infinity" then some (infinity negative)
  else if name = "nan" then some (ofMagnitude negative Binary.double.nan)
  else ofNumeral? negative cs

end BoundSql.Double
