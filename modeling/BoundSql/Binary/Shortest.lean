import BoundSql.Binary.Double

/-!
# Shortest digits

The reals that round to one double form an interval around it, whose ends
belong to it exactly when the coefficient is even. The shortest digits are
those of the coarsest decimal grid that has a point in the interval; of two
such points the nearer is taken, and of two equally near ones the tie rule
decides.
-/

namespace BoundSql.Binary

open BoundSql.Number

/-- The interval of magnitudes that round to `coefficient * 2 ^ power`, and the magnitude itself,
all in units of `2 ^ (power - 2)`. -/
structure Interval where
  low : Nat
  value : Nat
  high : Nat
  closed : Bool
  power : Int
  deriving Repr

/-- The interval of a finite magnitude of the 64-bit format. Below a power of two the neighbour is
nearer by half. -/
def Interval.of (coefficient : Nat) (power : Int) : Interval where
  low := if coefficient = Nat.pow 2 double.fractionBits ∧ power ≠ double.minPower
    then 4 * coefficient - 1 else 4 * coefficient - 2
  value := 4 * coefficient
  high := 4 * coefficient + 2
  closed := coefficient % 2 = 0
  power := power - 2

/-- Digits times a power of ten. -/
structure Decimals where
  digits : Nat
  exponent : Int
  deriving DecidableEq, Repr

/-- The exponent `k` with `10 ^ (k - 1) ≤ num / den < 10 ^ k`, for a positive quotient. -/
def decimalSize (num den : Nat) : Int :=
  let reaches (k : Int) : Bool :=
    let (n, d) := scaled 10 den num k
    n ≤ d
  let guess := ((num.log2 : Int) - den.log2) * 30103 / 100000
  if reaches (guess + 1) then guess + 2
  else if reaches guess then guess + 1
  else if reaches (guess - 1) then guess
  else guess - 1

/-- The point of the grid of multiples of `10 ^ exponent` that is nearest to the value among those
in the interval, if there is one. -/
def Interval.pointOn (i : Interval) (tie : Tie) (exponent : Int) : Option Nat :=
  let (unit, grid) := scaled 2 1 1 i.power
  let (unit, grid) := scaled 10 unit grid (-exponent)
  let below := i.value * unit / grid
  let inside (k : Nat) : Bool :=
    if i.closed then i.low * unit ≤ k * grid && k * grid ≤ i.high * unit
    else i.low * unit < k * grid && k * grid < i.high * unit
  match inside below, inside (below + 1) with
  | true, true => some (roundDiv tie (i.value * unit) grid)
  | true, false => some below
  | false, true => some (below + 1)
  | false, false => none

/-- Digits without trailing zeros, at most as many as the first argument. -/
def Decimals.trimmed : Nat → Decimals → Decimals
  | 0, d => d
  | fuel + 1, d =>
    if d.digits ≠ 0 ∧ d.digits % 10 = 0 then trimmed fuel ⟨d.digits / 10, d.exponent + 1⟩ else d

/-- The first grid with a point in the interval, from `count` digits on. -/
def Interval.search (i : Interval) (tie : Tie) (size : Int) : Nat → Nat → Decimals
  | 0, _ => ⟨0, 0⟩
  | fuel + 1, count =>
    match i.pointOn tie (size - count) with
    | some k => Decimals.trimmed 17 ⟨k, size - count⟩
    | none => search i tie size fuel (count + 1)

/-- The shortest digits that read back as `coefficient * 2 ^ power`, for a positive coefficient.
Seventeen digits always suffice. -/
def shortest (tie : Tie) (coefficient : Nat) (power : Int) : Decimals :=
  let (num, den) := scaled 2 coefficient 1 power
  (Interval.of coefficient power).search tie (decimalSize num den) 17 1

end BoundSql.Binary
