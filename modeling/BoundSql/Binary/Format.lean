import BoundSql.Number.Rounding

/-!
# Binary floating-point formats

A word of a binary format is a sign bit, a field of exponent bits and a field
of fraction bits. It denotes a signed multiple of a power of two, an infinity
or no number. A rational is stored as the nearest finite value, a half going
to the even fraction, and as an infinity when it is too large.
-/

namespace BoundSql.Binary

open BoundSql.Number

/-- The widths of the two fields of a word. -/
structure Format where
  fractionBits : Nat
  exponentBits : Nat
  deriving DecidableEq, Repr

/-- The 64-bit format. -/
def double : Format := ⟨52, 11⟩

/-- The 32-bit format. -/
def single : Format := ⟨23, 8⟩

/-- What a word denotes: a finite word stands for `coefficient * 2 ^ power` with its sign. -/
inductive Reading where
  | nan
  | infinite (negative : Bool)
  | finite (negative : Bool) (coefficient : Nat) (power : Int)
  deriving DecidableEq, Repr

namespace Format

/-- The sign bit alone. -/
def signBit (f : Format) : Nat :=
  Nat.pow 2 (f.fractionBits + f.exponentBits)

/-- The exponent field of infinities and of words that are no numbers. -/
def topField (f : Format) : Nat :=
  Nat.pow 2 f.exponentBits - 1

/-- The word of the positive infinity. -/
def infinity (f : Format) : Nat :=
  f.topField * Nat.pow 2 f.fractionBits

/-- The word that denotes no number and has its first fraction bit set. -/
def nan (f : Format) : Nat :=
  f.infinity + Nat.pow 2 (f.fractionBits - 1)

/-- The power of two that the last fraction bit of the smallest values stands for. -/
def minPower (f : Format) : Int :=
  2 - Nat.pow 2 (f.exponentBits - 1) - f.fractionBits

/-- The magnitude part of a word, with a sign put in front of it. -/
def signed (f : Format) (negative : Bool) (magnitude : Nat) : Nat :=
  if negative then f.signBit + magnitude else magnitude

/-- What a word denotes. -/
def read (f : Format) (word : Nat) : Reading :=
  let negative := f.signBit ≤ word
  let field := word / Nat.pow 2 f.fractionBits % Nat.pow 2 f.exponentBits
  let fraction := word % Nat.pow 2 f.fractionBits
  if field = f.topField then
    if fraction = 0 then .infinite negative else .nan
  else if field = 0 then .finite negative fraction f.minPower
  else .finite negative (Nat.pow 2 f.fractionBits + fraction) (f.minPower + (field - 1))

/-- The power of two of the last place in which `num / den` is stored. -/
def placeOf (f : Format) (num den : Nat) : Int :=
  let guess := max ((num.log2 : Int) - den.log2 - f.fractionBits - 1) f.minPower
  let (n, d) := scaled 2 num den (-guess)
  if Nat.pow 2 (f.fractionBits + 1) ≤ n / d then guess + 1 else guess

/-- The magnitude of the word nearest to `num / den`. A carry out of the fraction moves into the
exponent field by itself. -/
def nearest (f : Format) (num den : Nat) : Nat :=
  if num = 0 then 0
  else
    let place := f.placeOf num den
    let (n, d) := scaled 2 num den (-place)
    let word := roundDiv .toEven n d + (place - f.minPower).toNat * Nat.pow 2 f.fractionBits
    min word f.infinity

/-- The word of one format carried over to another: the sign stays, the value is rounded. -/
def convert (source target : Format) (word : Nat) : Nat :=
  match source.read word with
  | .nan => target.signed (source.signBit ≤ word) target.nan
  | .infinite negative => target.signed negative target.infinity
  | .finite negative m q =>
    let (n, d) := scaled 2 m 1 q
    target.signed negative (target.nearest n d)

end Format

end BoundSql.Binary
