import BoundSql.Wire.Bytes

/-!
# Reading bytes back

An integer is read back from its bytes in two's complement when half of the
numbers of that width reach it from zero, and a text is read back from its
bytes. So no integer in range is ever wrapped.
-/

namespace BoundSql.Wire

/-- An integer that the width has room for is read back from its bytes. -/
theorem signed?_signedBytes {width : Nat} {n : Int}
    (hlow : -(Nat.pow 256 width : Int) ≤ 2 * n) (hhigh : 2 * n < Nat.pow 256 width) :
  signed? width (signedBytes width n) = some n
  := by
  have hpos : 0 < Nat.pow 256 width := Nat.pow_pos (by decide)
  generalize hmodulus : Nat.pow 256 width = modulus at *
  have hword : ((n % modulus).toNat : Int) = n % modulus :=
    Int.toNat_of_nonneg (Int.emod_nonneg n (by omega))
  have hfits : (n % modulus).toNat < Nat.pow 256 width := by
    have hlt := Int.emod_lt_of_pos n (b := modulus) (by omega)
    omega
  rw [signed?, signedBytes, hmodulus, number?_bigEndian hfits]
  show some (Int.bmod (n % modulus).toNat modulus) = some n
  rw [hword, Int.emod_bmod, Int.bmod_eq_of_le (by omega) (by omega)]

/-- A text is read back from its bytes. -/
theorem text?_textBytes (s : String) :
  text? (textBytes s) = some s
  := by
  rw [text?, textBytes, String.fromUTF8?]
  apply dif_pos s.isValidUTF8

end BoundSql.Wire
