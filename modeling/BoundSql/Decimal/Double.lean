import BoundSql.Decimal.Basic
import BoundSql.Binary.Double

/-!
# Decimals and doubles

A double becomes the decimal of its leading digits, as many as a double
guarantees, without trailing zeros. A decimal becomes a double by way of its
whole and fractional parts, each step rounded to the nearest double.
-/

namespace BoundSql.Decimal

/-- A mantissa with a power of ten. -/
structure Scaled where
  mantissa : Nat
  exponent : Int
  deriving DecidableEq, Repr

/-- The mantissa after `steps` halvings. An odd mantissa is halved by taking five tenths of it; when
the mantissa has no room for that, its last bit is lost. -/
def halve : Nat → Scaled → Scaled
  | 0, s => s
  | steps + 1, ⟨m, e⟩ =>
    if m % 2 = 0 then halve steps ⟨m / 2, e + 1⟩
    else if 5 * m < mantissaLimit then halve steps ⟨5 * m, e⟩
    else halve steps ⟨m / 2, e + 1⟩

/-- The mantissa after `steps` doublings, taken as tens over fives once its top bit is set. -/
def redouble : Nat → Scaled → Scaled
  | 0, s => s
  | steps + 1, ⟨m, e⟩ =>
    if 2 * m < mantissaLimit then redouble steps ⟨2 * m, e - 1⟩
    else redouble steps ⟨m / 5, e⟩

/-- The mantissa with its exponent brought down to zero, if there is room. -/
def fill : Nat → Nat → Option Nat
  | 0, m => some m
  | steps + 1, m => if 10 * m < mantissaLimit then fill steps (10 * m) else none

/-- The last digit rounded away, a five going up. -/
def dropDigit (m : Nat) : Nat :=
  if 5 ≤ m % 10 then m / 10 + 1 else m / 10

/-- Digits dropped until at most 28 places are left; a mantissa that vanishes is plainly zero. -/
def dropPlaces : Nat → Scaled → Scaled
  | 0, s => s
  | steps + 1, ⟨m, e⟩ =>
    if e < -28 then
      if m / 10 = 0 then ⟨0, 0⟩ else dropPlaces steps ⟨dropDigit m, e + 1⟩
    else ⟨m, e⟩

/-- Digits dropped while the mantissa has places and more bits than the fraction of a double. -/
def dropExcess : Nat → Scaled → Scaled
  | 0, s => s
  | steps + 1, ⟨m, e⟩ =>
    if e < 0 ∧ Nat.pow 2 52 ≤ m then dropExcess steps ⟨dropDigit m, e + 1⟩ else ⟨m, e⟩

/-- Trailing zeros dropped from the places. -/
def dropZeros : Nat → Scaled → Scaled
  | 0, s => s
  | steps + 1, ⟨m, e⟩ =>
    if e < 0 ∧ m % 10 = 0 then dropZeros steps ⟨m / 10, e + 1⟩ else ⟨m, e⟩

/-- The decimal of `coefficient * 2 ^ power` with a sign. The power of two is spent as a power of
ten over a power of five. -/
def ofBinary? (negative : Bool) (coefficient : Nat) (power : Int) : Option Decimal :=
  let s := if power < 0 then halve power.natAbs ⟨coefficient, power⟩
    else redouble power.natAbs ⟨coefficient, power⟩
  let whole := if 0 < s.exponent then (fill s.exponent.toNat s.mantissa).map (⟨·, 0⟩)
    else some s
  whole.bind fun s =>
    let s := dropPlaces s.exponent.natAbs s
    let s := dropExcess s.exponent.natAbs s
    let s := dropZeros s.exponent.natAbs s
    ofParts? negative s.mantissa s.exponent.natAbs

/-- The decimal of a double; there is none for an infinity, for what is no number, and for values
too large. -/
def ofDouble? (x : BoundSql.Double) : Option Decimal :=
  match x.reading with
  | .finite negative 0 _ => some (zero negative)
  | .finite negative m q => ofBinary? negative m q
  | _ => none

/-- The value of the double nearest to a rational, for rationals in the range of doubles. -/
def nearest (r : Rat) : Rat :=
  (BoundSql.Double.ofRat r).value?.getD 0

/-- A power by repeated squaring, each product rounded to the nearest double. -/
def roundedPower : Nat → (result base : Rat) → Nat → Rat
  | 0, result, _, _ => result
  | fuel + 1, result, base, n =>
    let result := if n % 2 = 1 then nearest (result * base) else result
    if n / 2 = 0 then result else roundedPower fuel result (nearest (base * base)) (n / 2)

/-- The double of a decimal. -/
def toDouble (d : Decimal) : BoundSql.Double :=
  let signed (r : Rat) : BoundSql.Double :=
    BoundSql.Double.ofQuotient d.negative r.num.natAbs r.den
  if d.scale = 0 then BoundSql.Double.ofInt d.wholePart
  else
    let unit := Nat.pow 10 d.scale
    let fraction :=
      nearest (nearest ((d.mantissa % unit : Nat) : Rat) / nearest ((unit : Nat) : Rat))
    let whole := nearest ((d.mantissa / unit : Nat) : Rat)
    if fraction = 0 then signed whole
    else
      let grid := roundedPower 8 1 10 d.scale
      let steps := nearest (nearest (whole + fraction) * grid)
      signed (nearest (((steps + 1 / 2).floor : Rat) / grid))

end BoundSql.Decimal
