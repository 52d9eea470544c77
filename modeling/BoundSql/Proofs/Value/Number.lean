import BoundSql.Proofs.Binary.Spelling
import BoundSql.Proofs.Decimal.Reading
import BoundSql.Proofs.Json.Number
import BoundSql.Value.Coerce

/-!
# Coercing JSON integers

An integer of 64 bits is coerced to an integer, a decimal, a text or a JSON value.
What it is coerced to denotes the integer when the integer is a signed word, and in
any case when it is coerced to an integer or a decimal. Beyond the signed words a
text and a JSON value are made from the double nearest to the integer. So a JSON
value denotes the integer when a double has it, and a text when it is the shortest
digits of the double.
-/

namespace BoundSql

open BoundSql.Text

namespace Decimal

/-- An integer of at most 96 bits as a decimal. -/
def ofInt (n : Int) (h : n.natAbs < mantissaLimit) : Decimal :=
  ⟨decide (n < 0), n.natAbs, 0, h, Nat.zero_le _⟩

theorem toText_ofInt (n : Int) (h : n.natAbs < mantissaLimit) :
  (ofInt n h).toText = integerText n
  := by
  have hdigits : 1 - (digits n.natAbs).length = 0 := by
    have hlength := List.length_pos_iff.mpr (digits_ne_nil n.natAbs)
    omega
  simp only [toText, ofInt, padded, integerText, decimalText]
  by_cases hneg : n < 0
  · simp [hneg, hdigits]
  · simp [hneg, hdigits]

theorem value_ofInt (n : Int) (h : n.natAbs < mantissaLimit) :
  (ofInt n h).value = n
  := by
  have hsigned : (if decide (n < 0) = true then -(n.natAbs : Int) else n.natAbs) = n := by
    simp only [decide_eq_true_eq]
    omega
  show mkRat (if decide (n < 0) = true then -(n.natAbs : Int) else n.natAbs) 1 = n
  rw [hsigned, Rat.mkRat_one]

/-- The text of an integer of at most 96 bits is read as a decimal of its value. -/
theorem ofText?_integerText {n : Int} (h : n.natAbs < mantissaLimit) :
  ∃ d, ofText? (integerText n) = some d ∧ d.value = n
  := by
  use (ofInt n h).unsignedZero
  rw [← toText_ofInt n h, ofText?_toText, value_unsignedZero, value_ofInt]
  use rfl

end Decimal

/-- The shortest digits of a double are an integer. -/
def Double.Spells (x : Double) (n : Int) : Prop :=
  ∃ m q, x.reading = .finite false m q ∧ (Binary.shortest .up m q).Are n.toNat

/-- A family has a value for an integer of 64 bits: as a text when the integer is a signed word or
the shortest digits of the double nearest to it, as a JSON value when it is a signed word or that
double. -/
def ColumnType.KeepsInteger (n : WordInt) : ColumnType → Prop
  | .text => n.value < 2 ^ 63 ∨ (JsonNumber.integer n).toDouble.Spells n.value
  | .json => n.value < 2 ^ 63 ∨ 2048 ∣ n.value
  | _ => True

theorem ColumnType.keepsInteger_of_lt {n : WordInt} (h : n.value < 2 ^ 63) (ty : ColumnType) :
  ty.KeepsInteger n
  := by
  cases ty with
  | text => exact .inl h
  | json => exact .inl h
  | _ => trivial

namespace Value

/-- The value is an integer, as a number or in decimal digits. -/
def Denotes : Value → Int → Prop
  | .int i, n => i.toInt = n
  | .decimal d, n => d.value = n
  | .text s, n => s = integerText n
  | .json (.number m), n => m.value = n
  | _, _ => False

variable {n : WordInt} {ty : ColumnType} {w : Value}

/-- An integer is coerced to a decimal of its value. -/
theorem denotes_of_coerce_decimal (h : coerce .decimal (.number (.integer n)) = .ok w) :
  w.Denotes n.value
  := by
  have hlow := n.min_le
  have hhigh := n.lt_max
  have hmin := Int64.toInt_minValue
  have hfits : n.value.natAbs < Decimal.mantissaLimit := by
    simp only [Decimal.mantissaLimit, Nat.pow_eq, UInt64.size] at *
    omega
  obtain ⟨d, hread, hvalue⟩ := Decimal.ofText?_integerText hfits
  have hcoerce : coerce .decimal (.number (.integer n)) = .ok (.decimal d) := by
    simp only [coerce, JsonNumber.toText, hread, if_true]
  obtain rfl := Except.ok.inj (hcoerce.symm.trans h)
  apply hvalue

/-- A signed word is coerced as one. -/
theorem coerce_of_lt (hn : n.value < 2 ^ 63) (hty : ty ≠ .decimal) :
  ∃ i : Int64, i.toInt = n.value ∧ coerce ty (.number (.integer n)) = moved ty (.int i)
  := by
  obtain ⟨i, hi, hvalue⟩ := WordInt.exists_int64Of? hn
  have hint : (JsonNumber.integer n).int64? = some i := hi
  use i, hvalue
  simp only [coerce, if_neg hty, hint]

/-- An integer without a sign is coerced as the double nearest to it. -/
theorem coerce_of_le (hn : 2 ^ 63 ≤ n.value) (hty : ty ≠ .decimal) :
  coerce ty (.number (.integer n)) = moved ty (.float (JsonNumber.integer n).toDouble)
  := by
  simp only [coerce, if_neg hty, JsonNumber.int64?_integer_of_le hn]

/-- A signed word keeps its value in each family. -/
theorem denotes_of_moved_int {i : Int64} (hty : ty ∈ [.integer, .text, .json])
    (h : moved ty (.int i) = .ok w) :
  w.Denotes i.toInt
  := by
  simp only [List.mem_cons, List.not_mem_nil, or_false] at hty
  rcases hty with rfl | rfl | rfl <;> cases h <;> rfl

/-- A double beyond the signed words is not moved to an integer. -/
theorem moved_integer_toDouble (hn : 2 ^ 63 ≤ n.value) :
  moved .integer (.float (JsonNumber.integer n).toDouble) ≠ .ok w
  := by
  have hlarge := WordInt.le_rounded hn
  have hbelow : (JsonNumber.integer n).toDouble.isBelow Double.wordBound = false := by
    rw [Double.isBelow, JsonNumber.value?_toDouble hn, Option.any_some, Rat.num_natCast,
      Rat.den_natCast, Int.natAbs_natCast, Double.wordBound]
    apply decide_eq_false
    omega
  have hword : (JsonNumber.integer n).toDouble.toInt64? = none := by
    rw [Double.toInt64?, hbelow, Bool.and_false]
    rfl
  intro h
  simp [moved, type?, move, hword] at h

/-- The text of a double beyond the signed words is that of the integer exactly when the shortest
digits of the double are the integer. -/
theorem denotes_of_moved_text (hn : 2 ^ 63 ≤ n.value)
    (h : moved .text (.float (JsonNumber.integer n).toDouble) = .ok w) :
  w.Denotes n.value ↔ (JsonNumber.integer n).toDouble.Spells n.value
  := by
  obtain ⟨k, hk, _⟩ := WordInt.exists_natCast hn
  obtain ⟨m, q, hm, hreading, _⟩ := JsonNumber.reading_toDouble hn
  have hwritten := Binary.write_plain_eq_iff hreading hm (by omega : 0 < k)
  cases h
  rw [Denotes, hk, hwritten, Double.Spells, Int.toNat_natCast]
  constructor
  · intro hdigits
    use m, q
  · rintro ⟨m', q', hreading', hdigits⟩
    obtain ⟨rfl, rfl⟩ : m = m' ∧ (q : Int) = q' := by
      simpa using hreading.symm.trans hreading'
    apply hdigits

/-- The JSON value of a double beyond the signed words is the integer exactly when a double has
it. -/
theorem denotes_of_moved_json (hn : 2 ^ 63 ≤ n.value)
    (h : moved .json (.float (JsonNumber.integer n).toDouble) = .ok w) :
  w.Denotes n.value ↔ 2048 ∣ n.value
  := by
  obtain ⟨m, hm, hvalue⟩ := JsonNumber.exists_ofDouble?_toDouble hn
  have hw : w = .json (.number m) := by
    simpa [moved, type?, move, hm] using h.symm
  rw [hw, Denotes, hvalue, ← WordInt.rounded_eq_iff hn]
  norm_cast

/-- What an integer of 64 bits is coerced to denotes it exactly when the family keeps it. -/
theorem denotes_of_coerce_iff (hty : ty ∈ [.integer, .decimal, .text, .json])
    (h : coerce ty (.number (.integer n)) = .ok w) :
  w.Denotes n.value ↔ ty.KeepsInteger n
  := by
  by_cases hdecimal : ty = .decimal
  · subst hdecimal
    exact iff_of_true (denotes_of_coerce_decimal h) trivial
  have hother : ty ∈ [.integer, .text, .json] := by
    simpa only [List.mem_cons, List.not_mem_nil, hdecimal, false_or] using hty
  rcases Int.lt_or_le n.value (2 ^ 63) with hn | hn
  · obtain ⟨i, hi, hcoerce⟩ := coerce_of_lt hn hdecimal
    rw [hcoerce] at h
    rw [← hi]
    exact iff_of_true (denotes_of_moved_int hother h) (ColumnType.keepsInteger_of_lt hn ty)
  · have hnot : ¬n.value < 2 ^ 63 := Int.not_lt.mpr hn
    rw [coerce_of_le hn hdecimal] at h
    simp only [List.mem_cons, List.not_mem_nil, or_false] at hother
    rcases hother with rfl | rfl | rfl
    · exact absurd h (moved_integer_toDouble hn)
    · rw [denotes_of_moved_text hn h, ColumnType.KeepsInteger, or_iff_right hnot]
    · rw [denotes_of_moved_json hn h, ColumnType.KeepsInteger, or_iff_right hnot]

/-- The integer ten to the nineteenth keeps its digits as a text. -/
theorem denotes_of_coerce_iff_text :
  (Value.text "10000000000000000000").Denotes 10000000000000000000
    ∧ ColumnType.text.KeepsInteger ⟨10000000000000000000, by decide, by decide⟩
  := by
  have hcoerce : coerce .text (.number (.integer ⟨10000000000000000000, by decide, by decide⟩))
      = .ok (.text "10000000000000000000") := by
    rfl
  have hdenotes : (Value.text "10000000000000000000").Denotes 10000000000000000000 := by
    show "10000000000000000000" = integerText 10000000000000000000
    decide +kernel
  exact ⟨hdenotes, (denotes_of_coerce_iff (by decide) hcoerce).mp hdenotes⟩

/-- The largest integer of 64 bits is written as a text with the shortest digits of the double
nearest to it. -/
theorem not_denotes_of_coerce :
  coerce .text (.number (.integer ⟨18446744073709551615, by decide, by decide⟩))
      = .ok (.text "18446744073709552000")
    ∧ ¬ ∀ (n : WordInt) (ty : ColumnType) (w : Value),
      ty ∈ [.integer, .decimal, .text, .json] →
      coerce ty (.number (.integer n)) = .ok w → w.Denotes n.value
  := by
  have hcoerce : coerce .text (.number (.integer ⟨18446744073709551615, by decide, by decide⟩))
      = .ok (.text "18446744073709552000") := by
    rfl
  use hcoerce
  intro h
  have hdenotes : "18446744073709552000" = integerText 18446744073709551615 :=
    h _ .text _ (by decide) hcoerce
  revert hdenotes
  decide +kernel

end Value

end BoundSql
