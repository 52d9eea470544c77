/-!
# Hexadecimal digits

Hexadecimal texts are written in lower case and read in either case.
-/

namespace BoundSql.Text

/-- The value of a hexadecimal digit of either case. -/
def hexDigit? (c : Char) : Option Nat :=
  if '0' ≤ c ∧ c ≤ '9' then some (c.toNat - '0'.toNat)
  else if 'a' ≤ c ∧ c ≤ 'f' then some (c.toNat - 'a'.toNat + 10)
  else if 'A' ≤ c ∧ c ≤ 'F' then some (c.toNat - 'A'.toNat + 10)
  else none

/-- The value of a string of hexadecimal digits read after the value of those before it; nothing
when a character is no such digit. -/
def hexValueFrom? (before : Nat) : List Char → Option Nat
  | [] => some before
  | c :: r => (hexDigit? c).bind fun d => hexValueFrom? (16 * before + d) r

/-- The value of a string of hexadecimal digits. -/
def hexValue? (cs : List Char) : Option Nat :=
  hexValueFrom? 0 cs

/-- A number in hexadecimal digits, filled with zeros on the left to the given width. -/
def hexPadded (width n : Nat) : List Char :=
  List.replicate (width - (Nat.toDigits 16 n).length) '0' ++ Nat.toDigits 16 n

/-- The two digits of each byte, in order. -/
def hexOfBytes (bytes : List UInt8) : List Char :=
  bytes.flatMap fun b => hexPadded 2 b.toNat

/-- The bytes written by pairs of digits. -/
def bytesOfHex? : List Char → Option (List UInt8)
  | [] => some []
  | [_] => none
  | a :: b :: r =>
    match hexDigit? a, hexDigit? b, bytesOfHex? r with
    | some x, some y, some bytes => some (UInt8.ofNat (16 * x + y) :: bytes)
    | _, _, _ => none

end BoundSql.Text
