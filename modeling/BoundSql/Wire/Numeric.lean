import BoundSql.Decimal.Basic
import BoundSql.Wire.Bytes

/-!
# Decimals on the wire

A decimal is sent as a head of four words and a list of groups. A group
holds four decimal digits, and the weight in the head says how many groups
besides the first stand in front of the decimal point. The scale in the head
is the number of places to show.
-/

namespace BoundSql.Wire

open BoundSql.Number

/-- The number of values of a group. -/
def groupBase : Nat := 10000

/-- A decimal in groups. -/
structure Groups where
  negative : Bool
  weight : Int
  scale : Nat
  groups : List Nat
  deriving DecidableEq, Repr

/-- The groups of a number, most significant first, in front of others. -/
def groupsOnto (rest : List Nat) (n : Nat) : List Nat :=
  if n = 0 then rest else groupsOnto (n % groupBase :: rest) (n / groupBase)
termination_by n
decreasing_by exact Nat.div_lt_self (Nat.pos_of_ne_zero ‹_›) (by decide)

/-- Groups without the zeros at their end. -/
def dropZeroGroups (groups : List Nat) : List Nat :=
  (groups.reverse.dropWhile (· = 0)).reverse

/-- The groups of a decimal. A zero has no groups, and neither its sign nor its places are sent.
Other places are filled up to whole groups. Zero groups at the end are left out, but only when there
are whole groups in front of the point. -/
def Groups.ofDecimal (d : Decimal) : Groups :=
  if d.isZero then ⟨false, 0, 0, []⟩
  else
    let places := (d.scale + 3) / 4
    let all := groupsOnto [] (d.mantissa * Nat.pow 10 (4 * places - d.scale))
    let weight : Int := all.length - places - 1
    let whole := (weight + 1).toNat
    let groups := if 0 ≤ weight then all.take whole ++ dropZeroGroups (all.drop whole) else all
    ⟨d.negative, weight, d.scale, groups⟩

/-- The sum of a mantissa at a scale and a group at some place, as exactly as 96 bits can hold it:
digits that do not fit are rounded away. -/
def fitDigits (mantissa scale : Nat) : Nat × Nat :=
  go scale
where
  /-- Tries to drop `scale - left` digits, then more. -/
  go : (left : Nat) → Nat × Nat
    | 0 => (roundDiv .toEven mantissa (Nat.pow 10 scale), 0)
    | left + 1 =>
      let m := roundDiv .toEven mantissa (Nat.pow 10 (scale - (left + 1)))
      if m < Decimal.mantissaLimit then (m, left + 1) else go left

/-- A decimal with a group added at a place behind the point. -/
def addGroup? (d : Decimal) (group place : Nat) : Option Decimal :=
  let scale := max d.scale place
  let sum := d.mantissa * Nat.pow 10 (scale - d.scale) + group * Nat.pow 10 (scale - place)
  let (m, s) := fitDigits sum scale
  Decimal.ofParts? false m s

/-- The groups behind the point added to a decimal. A group may have places down to the largest
scale; the one below it rounds the last place, and what is below that is dropped. -/
def addGroups? (d : Decimal) (place : Nat) : List Nat → Option Decimal
  | [] => some d
  | group :: r =>
    let sum := if place ≤ Decimal.maxScale then addGroup? d group place
      else if place = Decimal.maxScale + 4 ∧ 5000 ≤ group then addGroup? d 1 Decimal.maxScale
      else some d
    sum.bind fun d => addGroups? d (place + 4) r

/-- The decimal of groups, if 96 bits can hold its whole part. It gets as many places as the head
says, as far as there is room. -/
def Groups.decimal? (g : Groups) : Option Decimal :=
  let wholeCount := (g.weight + 1).toNat
  let whole := (g.groups.take wholeCount).foldl (fun n group => groupBase * n + group) 0
  let missing := wholeCount - g.groups.length
  let whole := if whole = 0 then 0 else whole * groupBase.pow missing
  let place := 4 * ((-g.weight - 1).toNat + 1)
  (Decimal.ofParts? false whole 0).bind fun d =>
    (addGroups? d place (g.groups.drop wholeCount)).map fun d =>
      Decimal.rescale { d with negative := g.negative } g.scale

/-- The bytes of groups. -/
def Groups.bytes (g : Groups) : List UInt8 :=
  bigEndian 2 g.groups.length ++ signedBytes 2 g.weight
    ++ bigEndian 2 (if g.negative then 0x4000 else 0) ++ bigEndian 2 g.scale
    ++ g.groups.flatMap (bigEndian 2)

/-- The two-byte words at the head of a string of bytes, `count` of them, and what follows. -/
def takeWords? : (count : Nat) → List UInt8 → Option (List Nat × List UInt8)
  | 0, bytes => some ([], bytes)
  | count + 1, a :: b :: r =>
    (takeWords? count r).map fun (words, rest) => (ofBigEndian [a, b] :: words, rest)
  | _ + 1, _ => none

/-- The groups of a string of bytes; there is no sign but plus and minus, and bytes behind the
groups are ignored. -/
def Groups.ofBytes? (bytes : List UInt8) : Option Groups := do
  let ([count, weight, sign, scale], rest) ← takeWords? 4 bytes | none
  let (groups, _) ← takeWords? count rest
  if sign = 0 then some ⟨false, Int.bmod weight 65536, scale, groups⟩
  else if sign = 0x4000 then some ⟨true, Int.bmod weight 65536, scale, groups⟩
  else none

end BoundSql.Wire
