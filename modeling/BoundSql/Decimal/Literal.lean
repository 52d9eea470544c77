import BoundSql.Decimal.Basic

/-!
# Texts of decimals

A plain numeral has an optional sign, digits with at most one point among
them, and underscores after its first digit. Places beyond what a decimal can
hold are rounded away by the first of them alone, where an underscore or a
second point counts as a zero; behind it there may be digits and underscores.
A scientific numeral has a plain one in front of its exponent. It moves the
point to the right exactly or not at all, and to the left with the places
that get lost rounded away.
-/

namespace BoundSql.Decimal

open BoundSql.Text

/-- One unit in the last place added when the next digit asks for it; an overflowing mantissa gives
up its last place. -/
def roundedBy (negative : Bool) (mantissa scale digit : Nat) : Option Decimal :=
  if digit < 5 then ofSigned? negative mantissa scale
  else if mantissa + 1 < mantissaLimit then ofSigned? negative (mantissa + 1) scale
  else if scale = 0 then none
  else ofSigned? negative ((mantissa + 5) / 10) (scale - 1)

/-- Whether the characters behind the place that is rounded away are such as a numeral may have. -/
def isTail (cs : List Char) : Bool :=
  cs.all fun c => c.isDigit || c = '_'

/-- Reads an unsigned plain numeral: whether the point and a digit have been seen, the mantissa and
the scale so far, and the rest of the text. -/
def scan (negative : Bool) : (point digit : Bool) → (mantissa scale : Nat) → List Char →
    Option Decimal
  | _, digit, mantissa, scale, [] => if digit then ofSigned? negative mantissa scale else none
  | point, digit, mantissa, scale, c :: r =>
    if c.isDigit then
      let d := c.toNat - '0'.toNat
      let next := 10 * mantissa + d
      if point && (scale = maxScale || mantissaLimit ≤ next) then
        if isTail r then roundedBy negative mantissa scale d else none
      else if mantissaLimit ≤ next then none
      else scan negative point true next (if point then scale + 1 else 0) r
    else if point && scale = maxScale then
      if (c = '_' || c = '.') && isTail r then roundedBy negative mantissa scale 0 else none
    else if c = '.' && !point then scan negative true digit mantissa scale r
    else if c = '_' && digit then scan negative point digit mantissa scale r
    else none

/-- The decimal that a plain numeral denotes. -/
def ofPlain? (cs : List Char) : Option Decimal :=
  match cs with
  | '-' :: r => scan true false false 0 0 r
  | '+' :: r => scan false false false 0 0 r
  | _ => scan false false false 0 0 cs

/-- The number that an exponent without a minus sign denotes; one plus sign is allowed. -/
def exponentValue? (cs : List Char) : Option Nat :=
  let ds := match cs with
    | '+' :: r => r
    | _ => cs
  if ds ≠ [] ∧ ds.all Char.isDigit ∧ digitsValue ds < UInt32.size then some (digitsValue ds)
  else none

/-- The decimal with its point moved to the left. A decimal that would get too many places loses
the last ones first, and a zero that it becomes keeps its sign. -/
def shiftLeft? (d : Decimal) (n : Nat) : Option Decimal :=
  if maxScale < n then none
  else
    let d := d.rescale (min d.scale (maxScale - n))
    ofParts? d.negative d.mantissa (d.scale + n)

/-- The decimal with its point moved to the right. -/
def shiftRight? (d : Decimal) (n : Nat) : Option Decimal :=
  if n ≤ d.scale then ofParts? d.negative d.mantissa (d.scale - n)
  else if maxScale < n then none
  else ofSigned? d.negative (d.mantissa * Nat.pow 10 (n - d.scale)) 0

/-- Whether a character opens an exponent. -/
def isExponentMark (c : Char) : Bool :=
  c = 'e' || c = 'E'

/-- The decimal that a scientific numeral denotes. -/
def ofScientific? (cs : List Char) : Option Decimal :=
  match cs.dropWhile (!isExponentMark ·) with
  | [] => none
  | _ :: exponent =>
    (ofPlain? (cs.takeWhile (!isExponentMark ·))).bind fun d =>
      match exponent with
      | '-' :: r => (exponentValue? r).bind d.shiftLeft?
      | _ => (exponentValue? exponent).bind d.shiftRight?

/-- The decimal that a text denotes. -/
def ofText? (s : String) : Option Decimal :=
  (ofPlain? s.toList).or (ofScientific? s.toList)

end BoundSql.Decimal
