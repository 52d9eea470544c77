/-!
# Bytes

A number is sent in a fixed number of bytes, the most significant first, and
an integer in two's complement. A text is sent in UTF-8.
-/

namespace BoundSql.Wire

/-- The last `width` bytes of a number, most significant first. -/
def bigEndian : (width : Nat) → Nat → List UInt8
  | 0, _ => []
  | width + 1, n => bigEndian width (n / 256) ++ [UInt8.ofNat n]

/-- The number of a string of bytes. -/
def ofBigEndian (bytes : List UInt8) : Nat :=
  bytes.foldl (fun n b => 256 * n + b.toNat) 0

/-- The bytes of an integer in two's complement. -/
def signedBytes (width : Nat) (n : Int) : List UInt8 :=
  bigEndian width (n % (Nat.pow 256 width : Nat)).toNat

/-- The number of exactly `width` bytes. -/
def number? (width : Nat) (bytes : List UInt8) : Option Nat :=
  if bytes.length = width then some (ofBigEndian bytes) else none

/-- The integer of exactly `width` bytes in two's complement. -/
def signed? (width : Nat) (bytes : List UInt8) : Option Int :=
  (number? width bytes).map fun n => Int.bmod n (Nat.pow 256 width)

/-- The bytes of a text. -/
def textBytes (s : String) : List UInt8 :=
  s.toByteArray.data.toList

/-- The text of a string of bytes, if they spell one. -/
def text? (bytes : List UInt8) : Option String :=
  String.fromUTF8? ⟨bytes.toArray⟩

@[simp]
theorem length_bigEndian (width n : Nat) :
  (bigEndian width n).length = width
  := by
  induction width generalizing n with
  | zero => rfl
  | succ width ih => simp [bigEndian, ih]

/-- Reading bytes back gives the number that fits into them. -/
theorem ofBigEndian_bigEndian (width n : Nat) :
  ofBigEndian (bigEndian width n) = n % Nat.pow 256 width
  := by
  induction width generalizing n with
  | zero => simp [bigEndian, ofBigEndian, Nat.mod_one]
  | succ width ih =>
      have hfront := ih (n / 256)
      have hpow : Nat.pow 256 (width + 1) = 256 * Nat.pow 256 width := Nat.pow_succ'
      simp only [ofBigEndian] at hfront
      simp only [ofBigEndian, bigEndian, List.foldl_append, List.foldl_cons, List.foldl_nil, hfront,
        UInt8.toNat_ofNat']
      rw [hpow, Nat.mod_mul]
      omega

theorem number?_bigEndian {width n : Nat} (h : n < Nat.pow 256 width) :
  number? width (bigEndian width n) = some n
  := by
  rw [number?, if_pos (length_bigEndian width n), ofBigEndian_bigEndian, Nat.mod_eq_of_lt h]

end BoundSql.Wire
