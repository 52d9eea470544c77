import BoundSql.Number.Rounding
import BoundSql.Text.Digits

/-!
# Decimals

A decimal is a sign, a mantissa of at most 96 bits and a scale of at most 28
places. Two decimals of the same value may differ in scale, and a zero may
carry a sign; both show in the text of the decimal.
-/

namespace BoundSql

open BoundSql.Number BoundSql.Text

/-- The bound of mantissas. -/
def Decimal.mantissaLimit : Nat := Nat.pow 2 96

/-- The largest scale. -/
def Decimal.maxScale : Nat := 28

/-- The number `mantissa / 10 ^ scale` with a sign. -/
structure Decimal where
  negative : Bool
  mantissa : Nat
  scale : Nat
  mantissa_lt : mantissa < Decimal.mantissaLimit
  scale_le : scale ≤ Decimal.maxScale
  deriving DecidableEq, Repr

namespace Decimal

/-- The exact value. -/
def value (d : Decimal) : Rat :=
  mkRat (if d.negative then -(d.mantissa : Int) else d.mantissa) (Nat.pow 10 d.scale)

/-- A decimal from its parts, when they are in range. -/
def ofParts? (negative : Bool) (mantissa scale : Nat) : Option Decimal :=
  if h : mantissa < mantissaLimit ∧ scale ≤ maxScale then
    some ⟨negative, mantissa, scale, h.1, h.2⟩
  else none

/-- A decimal from its parts, when they are in range; a zero gets no sign. -/
def ofSigned? (negative : Bool) (mantissa scale : Nat) : Option Decimal :=
  ofParts? (negative && mantissa != 0) mantissa scale

/-- The zero with a sign and no places. -/
def zero (negative : Bool) : Decimal :=
  ⟨negative, 0, 0, by decide, by decide⟩

/-- The decimal of a 64-bit integer. -/
def ofInt64 (n : Int64) : Decimal where
  negative := n.toInt < 0
  mantissa := n.toInt.natAbs
  scale := 0
  mantissa_lt := by
    have h₁ := Int64.le_toInt n
    have h₂ := Int64.toInt_lt n
    simp only [mantissaLimit, Nat.pow_eq]
    omega
  scale_le := by decide

/-- Whether the value is zero. -/
def isZero (d : Decimal) : Bool :=
  d.mantissa = 0

/-- Whether the value is an integer. -/
def isWhole (d : Decimal) : Bool :=
  d.mantissa % Nat.pow 10 d.scale = 0

/-- The integer part of the value. -/
def wholePart (d : Decimal) : Int :=
  let n : Int := d.mantissa / Nat.pow 10 d.scale
  if d.negative then -n else n

/-- Plain notation with as many places as the scale says. -/
def toText (d : Decimal) : String :=
  let ds := padded (d.scale + 1) d.mantissa
  let whole := ds.take (ds.length - d.scale)
  let places := ds.drop (ds.length - d.scale)
  let sign := if d.negative then ['-'] else []
  String.ofList (sign ++ whole ++ (if d.scale = 0 then [] else '.' :: places))

/-- A mantissa multiplied by ten as often as asked, as far as there is room, and the scale that goes
up with it. -/
def widen : Nat → (mantissa scale : Nat) → Nat × Nat
  | 0, m, s => (m, s)
  | more + 1, m, s => if 10 * m < mantissaLimit then widen more (10 * m) (s + 1) else (m, s)

/-- The decimal with the given number of places. Dropping places rounds by the first place dropped,
a five going away from zero; adding places stops where the mantissa would overflow. -/
def rescale (d : Decimal) (scale : Nat) : Decimal :=
  let scale := min scale maxScale
  let (m, s) :=
    if d.mantissa = 0 then (0, scale)
    else if scale ≤ d.scale then (roundDiv .up d.mantissa (Nat.pow 10 (d.scale - scale)), scale)
    else widen (scale - d.scale) d.mantissa d.scale
  (ofParts? d.negative m s).getD d

end Decimal

end BoundSql
