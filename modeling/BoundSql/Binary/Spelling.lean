import BoundSql.Binary.Shortest
import BoundSql.Text.Digits

/-!
# Spellings of doubles

A double is written with its shortest digits. A spelling says which sizes are
written positionally, whether a whole number keeps its point, how an exponent
shows its sign, and which of two equally short digit strings is taken.
-/

namespace BoundSql.Binary

open BoundSql.Number BoundSql.Text

/-- The choices of a written form. A value is positional when the exponent of its leading digit is
at least `lowest` and less than `limit`; nothing means no bound. -/
structure Spelling where
  tie : Tie
  lowest : Option Int
  limit : Option Int
  keepsPoint : Bool
  plusSign : Bool
  deriving DecidableEq, Repr

/-- Always positional, a whole number without a point. -/
def Spelling.plain : Spelling := ⟨.up, none, none, false, false⟩

/-- Positional from 0.0001 up to 10^16, a whole number with a point and a zero. -/
def Spelling.marked : Spelling := ⟨.up, some (-4), some 16, true, false⟩

/-- The number form of JSON texts: positional from 0.00001 up to 10^16, positive exponents with a
plus sign. -/
def Spelling.json : Spelling := ⟨.toEven, some (-5), some 16, true, true⟩

/-- Digits with the point after the given number of them; zeros fill the gap on either side. -/
def positional (keepsPoint : Bool) (ds : List Char) (point : Int) : List Char :=
  if point ≤ 0 then '0' :: '.' :: List.replicate (-point).toNat '0' ++ ds
  else if ds.length ≤ point then
    ds ++ List.replicate (point.toNat - ds.length) '0' ++ (if keepsPoint then ['.', '0'] else [])
  else ds.take point.toNat ++ '.' :: ds.drop point.toNat

/-- Digits with the point after the first of them, and the exponent of that digit. -/
def withExponent (plusSign : Bool) (ds : List Char) (exponent : Int) : List Char :=
  let fraction := if ds.length ≤ 1 then [] else '.' :: ds.drop 1
  let sign := if exponent < 0 then ['-'] else if plusSign then ['+'] else []
  ds.take 1 ++ fraction ++ 'e' :: sign ++ digits exponent.natAbs

/-- The written form of a positive finite magnitude. -/
def Spelling.magnitude (s : Spelling) (coefficient : Nat) (power : Int) : List Char :=
  let d := shortest s.tie coefficient power
  let ds := digits d.digits
  let lead := d.exponent + ds.length - 1
  if s.lowest.all (· ≤ lead) && s.limit.all (lead < ·) then positional s.keepsPoint ds (lead + 1)
  else withExponent s.plusSign ds lead

/-- The written form of a double. -/
def Spelling.write (s : Spelling) (x : Double) : String :=
  let sign (negative : Bool) : List Char := if negative then ['-'] else []
  match x.reading with
  | .nan => "NaN"
  | .infinite negative => String.ofList (sign negative ++ ['i', 'n', 'f'])
  | .finite negative 0 _ =>
    String.ofList (sign negative ++ (if s.keepsPoint then ['0', '.', '0'] else ['0']))
  | .finite negative m q => String.ofList (sign negative ++ s.magnitude m q)

end BoundSql.Binary
