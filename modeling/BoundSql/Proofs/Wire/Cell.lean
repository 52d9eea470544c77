import BoundSql.Proofs.Value.Family
import BoundSql.Proofs.Wire.Bytes
import BoundSql.Proofs.Wire.Timestamp
import BoundSql.Wire.Cell

/-!
# Receiving what is sent

What is sent for a type is received as the value in the family of the type. It
has to be of a type whose binary form keeps a value as it is, and a timestamp
has to be a whole number of microseconds. An integer is sent exactly when it is
in the range of the type.
-/

namespace BoundSql

open Wire

/-- The integers of a type: the number of their bytes, the least and the greatest of them. -/
structure IntegerRange where
  width : Nat
  low : Int
  high : Int

/-- The integer is one of the range. -/
def IntegerRange.Has (r : IntegerRange) (n : Int64) : Prop :=
  r.low ≤ n.toInt ∧ n.toInt ≤ r.high

instance (r : IntegerRange) (n : Int64) : Decidable (r.Has n) :=
  inferInstanceAs (Decidable (_ ∧ _))

namespace WireType

/-- The integers of a type, if its values are integers. -/
def integers? : WireType → Option IntegerRange
  | .int2 => some ⟨2, -2 ^ 15, 2 ^ 15 - 1⟩
  | .int4 => some ⟨4, -2 ^ 31, 2 ^ 31 - 1⟩
  | .int8 => some ⟨8, -2 ^ 63, 2 ^ 63 - 1⟩
  | .oid => some ⟨4, 0, 2 ^ 32 - 1⟩
  | _ => none

/-- The binary form of the type keeps a value as it is. A float of 32 bits is rounded, a decimal and
a JSON value have several forms, and the other types have no values to read. -/
def KeepsValues : WireType → Prop
  | .float4 | .numeric | .json | .jsonb => False
  | .bytea | .inet | .int4Array => False
  | _ => True

end WireType

namespace Value

/-- A timestamp is a whole number of microseconds and lies in no leap second. -/
def HasWholeMicros : Value → Prop
  | .timestamp t => t.time.HasWholeMicros
  | .timestampTz t => t.time.HasWholeMicros
  | _ => True

/-- A timestamp lies in no leap second. -/
def OffLeapSeconds : Value → Prop
  | .timestamp t => t.time.isLeap = false
  | .timestampTz t => t.time.isLeap = false
  | _ => True

/-! ### Bytes of integers -/

variable {ty : WireType} {range : IntegerRange} {n : Int64}

theorem family?_of_integers? (hrange : ty.integers? = some range) :
  ty.family? = some .integer
  := by
  cases ty with
  | int2 | int4 | int8 | oid => rfl
  | _ => contradiction

theorem exists_integers? (h : ty.family? = some .integer) :
  ∃ range, ty.integers? = some range
  := by
  cases ty with
  | int2 | int4 | int8 | oid =>
      apply Exists.intro
      rfl
  | _ => cases h

/-- An integer in the range of the type is sent in as many bytes as the type has. -/
theorem bytes_int_of_has (hrange : ty.integers? = some range) (h : range.Has n) :
  (Value.int n).bytes ty = .ok (some (signedBytes range.width n.toInt))
  := by
  cases ty with
  | int2 | int4 | oid =>
      obtain rfl := Option.some.inj hrange
      rw [bytes, sendInt, if_pos]
      · rfl
      · apply h
  | int8 =>
      obtain rfl := Option.some.inj hrange
      rfl
  | _ => contradiction

/-- An integer out of the range of the type is not sent. -/
theorem bytes_int_of_not_has (hrange : ty.integers? = some range) (h : ¬ range.Has n) :
  (Value.int n).bytes ty = .error .outOfRange
  := by
  cases ty with
  | int2 | int4 | oid =>
      obtain rfl := Option.some.inj hrange
      rw [bytes, sendInt, if_neg]
      · rfl
      · apply h
  | int8 =>
      -- the range is that of all signed words
      obtain rfl := Option.some.inj hrange
      apply absurd _ h
      have hlow := n.le_toInt
      have hhigh := n.toInt_lt
      simp only [IntegerRange.Has]
      omega
  | _ => contradiction

/-- An integer in the range of the type is received as it was sent. -/
theorem ofBytes?_signedBytes (hrange : ty.integers? = some range) (h : range.Has n) :
  ofBytes? ty (signedBytes range.width n.toInt) = some (.int n)
  := by
  obtain ⟨hlow, hhigh⟩ := h
  cases ty with
  | int2 | int4 | int8 =>
      obtain rfl := Option.some.inj hrange
      simp only at hlow hhigh
      rw [ofBytes?, intOfBytes?, signed?_signedBytes (by simp; omega) (by simp; omega),
        Option.map_some, Int64.ofInt_toInt]
  | oid =>
      obtain rfl := Option.some.inj hrange
      simp only at hlow hhigh
      have hword : n.toInt % (Nat.pow 256 4 : Nat) = n.toInt := by
        apply Int.emod_eq_of_lt hlow
        simp
        omega
      have hfits : n.toInt.toNat < Nat.pow 256 4 := by
        show n.toInt.toNat < 4294967296
        omega
      have hback : Int64.ofNat n.toInt.toNat = n := by
        rw [← Int64.ofInt_eq_ofNat, Int.toNat_of_nonneg hlow, Int64.ofInt_toInt]
      rw [ofBytes?, signedBytes, hword, number?_bigEndian hfits, Option.map_some, hback]
  | _ => contradiction

/-! ### Bytes of values -/

/-- A timestamp is received as that of its count of microseconds. -/
theorem ofBytes?_timestamp (t : Timestamp) :
  ofBytes? .timestamp (signedBytes 8 t.micros) = (Timestamp.ofMicros? t.micros).map .timestamp
  := by
  rw [ofBytes?, signed?_signedBytes t.micros_bounds.1 t.micros_bounds.2, Option.bind_some]

/-- An instant is received as that of its count of microseconds. -/
theorem ofBytes?_timestamptz (t : Timestamp) :
  ofBytes? .timestamptz (signedBytes 8 t.micros)
    = (Timestamp.ofMicros? t.micros).map .timestampTz
  := by
  rw [ofBytes?, signed?_signedBytes t.micros_bounds.1 t.micros_bounds.2, Option.bind_some]

variable {v w : Value} {bytes : List UInt8}

/-- A value in the family of a type that keeps values is received as it was sent. -/
theorem ofBytes?_of_bytes (hkeeps : ty.KeepsValues) (htype : w.type? = ty.family?)
    (hmicros : w.HasWholeMicros) (h : w.bytes ty = .ok (some bytes)) :
  ofBytes? ty bytes = some w
  := by
  cases w with
  | null => cases h
  | bool b =>
      cases ty with
      | bool =>
          obtain rfl := Option.some.inj (Except.ok.inj h)
          cases b with
          | true => rfl
          | false => rfl
      | _ => cases htype
  | int n =>
      obtain ⟨range, hrange⟩ := exists_integers? htype.symm
      by_cases hhas : range.Has n
      · rw [bytes_int_of_has hrange hhas] at h
        cases h
        apply ofBytes?_signedBytes hrange hhas
      · rw [bytes_int_of_not_has hrange hhas] at h
        cases h
  | float x =>
      cases ty with
      | float8 =>
          obtain rfl := Option.some.inj (Except.ok.inj h)
          have hfits : x.bits.toNat < Nat.pow 256 8 := x.bits.toNat_lt
          rw [ofBytes?, number?_bigEndian hfits, Option.map_some, UInt64.ofNat_toNat]
      | float4 => cases hkeeps
      | _ => cases htype
  | decimal d =>
      cases ty with
      | numeric => cases hkeeps
      | _ => cases htype
  | text s =>
      cases ty with
      | text | varchar | bpchar | name | unknown =>
          obtain rfl := Option.some.inj (Except.ok.inj h)
          rw [ofBytes?, text?_textBytes, Option.map_some]
      | _ => cases htype
  | date d =>
      cases ty with
      | date =>
          obtain rfl := Option.some.inj (Except.ok.inj h)
          have hfirst := d.first_le
          have hlast := d.le_last
          simp only [Date.firstDay, Date.lastDay] at hfirst hlast
          rw [ofBytes?, signed?_signedBytes (by simp [epochDay]; omega) (by simp [epochDay]; omega),
            Option.bind_some, Int.sub_add_cancel, Date.ofDay?, dif_pos ⟨d.first_le, d.le_last⟩]
          rfl
      | _ => cases htype
  | timestamp t =>
      cases ty with
      | timestamp =>
          obtain rfl := Option.some.inj (Except.ok.inj h)
          rw [ofBytes?_timestamp, Timestamp.ofMicros?_micros hmicros]
          rfl
      | _ => cases htype
  | timestampTz t =>
      cases ty with
      | timestamptz =>
          obtain rfl := Option.some.inj (Except.ok.inj h)
          rw [ofBytes?_timestamptz, Timestamp.ofMicros?_micros hmicros]
          rfl
      | _ => cases htype
  | uuid u =>
      cases ty with
      | uuid =>
          obtain rfl := Option.some.inj (Except.ok.inj h)
          have hfits : u.bits.toNat < Nat.pow 256 16 := u.bits.isLt
          rw [ofBytes?, number?_bigEndian hfits, Option.map_some, BitVec.ofNat_toNat,
            BitVec.setWidth_eq]
      | _ => cases htype
  | json j =>
      cases ty with
      | json | jsonb => cases hkeeps
      | _ => cases htype

/-- A value in the family of a type that keeps values is received as some value when it lies in no
leap second. -/
theorem exists_ofBytes?_of_bytes (hkeeps : ty.KeepsValues) (htype : w.type? = ty.family?)
    (hoff : w.OffLeapSeconds) (h : w.bytes ty = .ok (some bytes)) :
  ∃ w', ofBytes? ty bytes = some w'
  := by
  cases w with
  | timestamp t =>
      cases ty with
      | timestamp =>
          obtain rfl := Option.some.inj (Except.ok.inj h)
          obtain ⟨t', ht'⟩ := Timestamp.exists_ofMicros?_micros hoff
          use .timestamp t'
          rw [ofBytes?_timestamp, ht', Option.map_some]
      | _ => cases htype
  | timestampTz t =>
      cases ty with
      | timestamptz =>
          obtain rfl := Option.some.inj (Except.ok.inj h)
          obtain ⟨t', ht'⟩ := Timestamp.exists_ofMicros?_micros hoff
          use .timestampTz t'
          rw [ofBytes?_timestamptz, ht', Option.map_some]
      | _ => cases htype
  | _ => exact ⟨_, ofBytes?_of_bytes hkeeps htype trivial h⟩

/-! ### Sending and receiving -/

theorem send_of_forType (h : v.forType ty = .ok w) :
  v.send ty = w.bytes ty
  := by
  rw [send, h]
  rfl

/-- What is sent is the value moved to the type. -/
theorem exists_forType_of_send {sent : Option (List UInt8)} (h : v.send ty = .ok sent) :
  ∃ w, v.forType ty = .ok w ∧ w.bytes ty = .ok sent
  := by
  cases hw : v.forType ty with
  | error r =>
      rw [send, hw] at h
      cases h
  | ok w =>
      rw [send_of_forType hw] at h
      use w, rfl, h

theorem forType_of_family? {family : ColumnType} (h : ty.family? = some family) (v : Value) :
  v.forType ty = v.convert family
  := by
  rw [forType, h]

theorem exists_family?_of_keepsValues (h : ty.KeepsValues) :
  ∃ family, ty.family? = some family
  := by
  cases ty with
  | bytea | inet | int4Array => cases h
  | _ =>
      apply Exists.intro
      rfl

theorem receive_of_ofBytes? {family : ColumnType} (hfamily : ty.family? = some family)
    (h : ofBytes? ty bytes = some w) :
  receive ty (some bytes) = .ok w
  := by
  simp only [receive, hfamily, h]

/-- What is sent for a type that keeps values is received, and as the value in the family of the
type, when a timestamp among the values is in whole microseconds; a timestamp in no leap second is
received in any case. A value whose conversion is an integer is sent for a type of integers exactly
when the integer is in the range of the type, and refused otherwise. -/
theorem receive_send (hkeeps : ty.KeepsValues) (v : Value) :
  (∃ family, ty.family? = some family ∧ ∀ bytes, v.send ty = .ok (some bytes) →
      ∃ w, v.convert family = .ok w
        ∧ (w.HasWholeMicros → receive ty (some bytes) = .ok w)
        ∧ (w.OffLeapSeconds → ∃ w', receive ty (some bytes) = .ok w'))
    ∧ ∀ range n, ty.integers? = some range → v.convert .integer = .ok (.int n) →
      ((∃ bytes, v.send ty = .ok (some bytes)) ↔ range.Has n)
        ∧ (¬ range.Has n → v.send ty = .error .outOfRange)
  := by
  constructor
  · obtain ⟨family, hfamily⟩ := exists_family?_of_keepsValues hkeeps
    use family, hfamily
    intro bytes hsend
    obtain ⟨w, hw, hbytes⟩ := exists_forType_of_send hsend
    rw [forType_of_family? hfamily] at hw
    have htype : w.type? = ty.family? := by
      rw [hfamily]
      rcases type?_of_convert hw with htype | ⟨rfl, -⟩
      · apply htype
      · cases hbytes
    refine ⟨w, hw, ?_, ?_⟩
    · intro hmicros
      apply receive_of_ofBytes? hfamily (ofBytes?_of_bytes hkeeps htype hmicros hbytes)
    · intro hoff
      obtain ⟨w', hw'⟩ := exists_ofBytes?_of_bytes hkeeps htype hoff hbytes
      use w', receive_of_ofBytes? hfamily hw'
  · intro range n hrange hn
    have hsend : v.send ty = (Value.int n).bytes ty := by
      apply send_of_forType
      rw [forType_of_family? (family?_of_integers? hrange), hn]
    rw [hsend]
    by_cases hhas : range.Has n
    · rw [bytes_int_of_has hrange hhas]
      simp [hhas]
    · rw [bytes_int_of_not_has hrange hhas]
      simp [hhas]

/-- The least integer of 16 bits, written as a text, is received as itself; the one after the
greatest is refused. -/
theorem receive_send_int2 :
  (Value.text "-32768").send .int2 = .ok (some [0x80, 0x00])
    ∧ receive .int2 (some [0x80, 0x00]) = .ok (.int (-32768))
    ∧ (Value.text "32768").send .int2 = .error .outOfRange
  := by
  have hsend : (Value.text "-32768").send .int2 = .ok (some [0x80, 0x00]) := by rfl
  have hleast : (Value.text "-32768").convert .integer = .ok (.int (-32768)) := by rfl
  have hafter : (Value.text "32768").convert .integer = .ok (.int 32768) := by rfl
  have hkeeps : WireType.int2.KeepsValues := trivial
  obtain ⟨family, hfamily, hback⟩ := (receive_send hkeeps (.text "-32768")).1
  obtain rfl := Option.some.inj hfamily
  obtain ⟨w, hw, hwhole, -⟩ := hback _ hsend
  obtain rfl := Except.ok.inj (hw.symm.trans hleast)
  use hsend, hwhole trivial
  apply ((receive_send hkeeps (.text "32768")).2 _ 32768 rfl hafter).2
  decide

end Value

end BoundSql
