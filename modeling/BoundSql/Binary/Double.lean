import BoundSql.Binary.Format
import BoundSql.Number.Word

/-!
# Doubles

A double is a 64-bit word of the binary format. Its value, when it has one,
is an exact rational, and every operation here is exact on values and then
rounded once.
-/

namespace BoundSql

open BoundSql.Binary BoundSql.Number

/-- A double, by its bits. -/
structure Double where
  bits : UInt64
  deriving DecidableEq, Repr

namespace Double

/-- The double of a magnitude and a sign. -/
def ofMagnitude (negative : Bool) (magnitude : Nat) : Double :=
  ⟨UInt64.ofNat (double.signed negative magnitude)⟩

/-- What the double denotes. -/
def reading (x : Double) : Reading :=
  double.read x.bits.toNat

/-- Whether the sign bit is set. -/
def isNegative (x : Double) : Bool :=
  double.signBit ≤ x.bits.toNat

/-- Whether the double is a number and no infinity. -/
def isFinite (x : Double) : Bool :=
  match x.reading with
  | .finite .. => true
  | _ => false

/-- Whether the double is no number. -/
def isNaN (x : Double) : Bool :=
  x.reading = .nan

/-- The exact value of a finite double. -/
def value? (x : Double) : Option Rat :=
  match x.reading with
  | .finite negative m q =>
    let (n, d) := scaled 2 m 1 q
    some (mkRat (if negative then -(n : Int) else n) d)
  | _ => none

/-- The double that is no number. -/
def nan : Double := ofMagnitude false double.nan

/-- The infinity of a sign. -/
def infinity (negative : Bool) : Double := ofMagnitude negative double.infinity

/-- The zero of a sign. -/
def zero (negative : Bool) : Double := ofMagnitude negative 0

/-- The double nearest to `num / den` with a sign. -/
def ofQuotient (negative : Bool) (num den : Nat) : Double :=
  ofMagnitude negative (double.nearest num den)

/-- The double nearest to a rational. -/
def ofRat (r : Rat) : Double :=
  ofQuotient (r.num < 0) r.num.natAbs r.den

/-- The double nearest to an integer. -/
def ofInt (n : Int) : Double :=
  ofQuotient (n < 0) n.natAbs 1

/-- The double nearest to `digits * 10 ^ exponent` with a sign. Exponents beyond every double are
settled without computing the power. -/
def ofDecimal (negative : Bool) (digits : Nat) (exponent : Int) : Double :=
  if digits = 0 then zero negative
  else
    let size : Int := (Nat.toDigits 10 digits).length + exponent
    if size > 310 then infinity negative
    else if size < -330 then zero negative
    else
      let (n, d) := scaled 10 digits 1 exponent
      ofQuotient negative n d

/-- Whether the double is an integer; an infinity is none. -/
def isWhole (x : Double) : Bool :=
  x.value?.any fun r => r.den = 1

/-- Whether the double has a magnitude below a bound. -/
def isBelow (x : Double) (bound : Nat) : Bool :=
  x.value?.any fun r => r.num.natAbs < bound * r.den

/-- The signed word that the double is cast to: the places behind the point are dropped, a double
beyond the words becomes the last one on its side, and what is no number becomes zero. -/
def castInt64 (x : Double) : Int64 :=
  match x.value? with
  | some r => nearestInt64 (r.num.tdiv r.den)
  | none => if x.isNaN then 0 else if x.isNegative then .minValue else .maxValue

/-- The 32-bit word nearest to the double. -/
def toSingle (x : Double) : Nat :=
  double.convert single x.bits.toNat

/-- The double that a 32-bit word denotes. -/
def ofSingle (word : Nat) : Double :=
  ⟨UInt64.ofNat (single.convert double word)⟩

end Double

end BoundSql
