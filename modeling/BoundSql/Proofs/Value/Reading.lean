import BoundSql.Filter.Compile
import BoundSql.Proofs.Calendar.Instant
import BoundSql.Proofs.Decimal.Reading
import BoundSql.Proofs.DynamicRow
import BoundSql.Proofs.Uuid
import BoundSql.Value.Coerce

/-!
# Reading rendered values

A value is rendered as JSON and coerced back to its family. It comes back as the
value as it is written: a zero has no sign, and a leap second that is not the
last of its minute is the second after it. An instant comes back only when its
year is plain.
-/

namespace BoundSql

open BoundSql.Text

namespace Value

/-- A value that JSON has a form of its own for: neither null nor JSON, and no double without a
value. -/
def IsRendered : Value → Prop
  | .null => False
  | .json _ => False
  | .float x => x.isFinite = true
  | _ => True

/-- A value as it is written, if it can be read. -/
def written? : Value → Option Value
  | .decimal d => some (.decimal d.unsignedZero)
  | .timestamp t => some (.timestamp t.asWritten)
  | .timestampTz t => if t.HasPlainYear then some (.timestampTz t.asWritten) else none
  | v => some v

/-- Values are the same when they are equal or decimals of the same number. -/
def Same : Value → Value → Prop
  | .decimal d, .decimal d' => d.value = d'.value
  | v, w => v = w

/-- A value comes back as the same one: its leap second, if it has one, is the last of its minute,
and when it is an instant its year is plain. -/
def ComesBack : Value → Prop
  | .timestamp t => t.time.EndsMinute
  | .timestampTz t => t.HasPlainYear ∧ t.time.EndsMinute
  | _ => True

/-! ### Texts of values -/

theorem ofText?_decimal (d : Decimal) :
  ofText? .decimal d.toText = some (.decimal d.unsignedZero)
  := by
  rw [ofText?, Decimal.toText_eq, d.unblank_chars.trim_eq, ← Decimal.toText_eq, d.ofText?_toText]
  rfl

theorem ofText?_date (d : Date) :
  ofText? .date d.toText = some (.date d)
  := by
  rw [ofText?, Date.toText, d.civil.unblank_chars.trim_eq, String.toList_ofList,
    d.ofChars?_chars]
  rfl

theorem ofText?_timestamp (t : Timestamp) :
  ofText? .timestamp t.toText = some (.timestamp t.asWritten)
  := by
  rw [ofText?, Timestamp.toText, t.unblank_chars.trim_eq, String.toList_ofList,
    Instant.ofChars?_chars]
  rfl

theorem unblank_offsetChars (t : Timestamp) :
  Unblank (t.chars 'T' ++ Instant.zeroOffset)
  := by
  have hoffset : Unblank Instant.zeroOffset := by
    simp only [Instant.zeroOffset, unblank_cons, unblank_nil, and_true]
    decide
  apply unblank_append.mpr ⟨t.unblank_chars, hoffset⟩

theorem ofText?_timestampTz (t : Timestamp) :
  ofText? .timestampTz t.toOffsetText = (Value.timestampTz t).written?
  := by
  have htext : t.toOffsetText = String.ofList (t.chars 'T' ++ Instant.zeroOffset) := rfl
  rw [ofText?, htext, (unblank_offsetChars t).trim_eq, String.toList_ofList,
    Instant.ofChars?_zeroOffset, written?]
  split
  · rfl
  · rfl

theorem ofText?_uuid (u : Uuid) :
  ofText? .uuid u.toText = some (.uuid u)
  := by
  have htrim : trim u.toText = u.toText := by
    have hunblank := u.unblank_toText.trim_eq
    rw [String.ofList_toList] at hunblank
    apply hunblank
  rw [ofText?, htrim, u.ofChars?_toText]
  rfl

/-! ### Rendered values -/

theorem toOption_ofText (ty : ColumnType) (s : String) :
  (ofText ty s).toOption = ofText? ty s
  := by
  rw [ofText]
  cases ofText? ty s with
  | none => rfl
  | some v => rfl

theorem toJson_float {x : Double} (h : x.isFinite = true) :
  (Value.float x).toJson = .number (.float ⟨x, h⟩)
  := by
  rw [toJson, jsonOfDouble, JsonNumber.ofDouble?, FiniteDouble.of?, dif_pos h]
  rfl

variable {v : Value} {ty : ColumnType}

/-- A rendered value is coerced to its family as it is written. -/
theorem coerce_toJson (hty : v.type? = some ty) (hrendered : v.IsRendered) :
  (coerce ty v.toJson).toOption = v.written?
  := by
  cases v with
  | null => contradiction
  | json j => contradiction
  | bool b =>
      obtain rfl := Option.some.inj hty
      rfl
  | int n =>
      obtain rfl := Option.some.inj hty
      have hint : (JsonNumber.ofInt64 n).int64? = some n := int64Of?_toInt n
      simp only [toJson, coerce, hint]
      rfl
  | float x =>
      obtain rfl := Option.some.inj hty
      rw [toJson_float hrendered]
      rfl
  | decimal d =>
      obtain rfl := Option.some.inj hty
      apply (toOption_ofText _ _).trans (ofText?_decimal d)
  | text s =>
      obtain rfl := Option.some.inj hty
      rfl
  | date d =>
      obtain rfl := Option.some.inj hty
      apply (toOption_ofText _ _).trans (ofText?_date d)
  | timestamp t =>
      obtain rfl := Option.some.inj hty
      apply (toOption_ofText _ _).trans (ofText?_timestamp t)
  | timestampTz t =>
      obtain rfl := Option.some.inj hty
      apply (toOption_ofText _ _).trans (ofText?_timestampTz t)
  | uuid u =>
      obtain rfl := Option.some.inj hty
      apply (toOption_ofText _ _).trans (ofText?_uuid u)

/-- The written value is the same one exactly when the value comes back. -/
theorem same_written?_iff (v : Value) :
  (∃ w, v.written? = some w ∧ w.Same v) ↔ v.ComesBack
  := by
  cases v with
  | decimal d => simp [written?, Same, ComesBack, d.value_unsignedZero]
  | timestamp t => simp [written?, Same, ComesBack, t.asWritten_eq_iff]
  | timestampTz t =>
      by_cases h : t.HasPlainYear
      · simp [written?, Same, ComesBack, h, t.asWritten_eq_iff]
      · simp [written?, Same, ComesBack, h]
  | _ => simp [written?, Same, ComesBack]

theorem isSkipped_ofList {cs : List Char} (h : Unblank cs) (hne : cs ≠ []) (ty : ColumnType) :
  isSkipped ty (.string (String.ofList cs)) = false
  := by
  rw [isSkipped, Json.isBlankString, h.isBlank_eq_false hne]
  rfl

/-- A rendered value is an operand that is given. -/
theorem isSkipped_toJson (hty : v.type? = some ty) (hrendered : v.IsRendered) :
  isSkipped ty v.toJson = false
  := by
  cases v with
  | null => contradiction
  | json j => contradiction
  | bool b => rfl
  | int n => rfl
  | float x =>
      rw [toJson_float hrendered]
      rfl
  | text s =>
      -- blanks are a value of a text column
      obtain rfl := Option.some.inj hty
      simp [toJson, isSkipped, Json.isNull, ColumnType.acceptsBlank]
  | decimal d =>
      apply isSkipped_ofList d.unblank_chars
      simp [Decimal.chars, d.numeral_wholeDigits.nonempty]
  | date d =>
      apply isSkipped_ofList d.civil.unblank_chars
      simp [Civil.chars]
  | timestamp t =>
      apply isSkipped_ofList t.unblank_chars
      simp [Timestamp.chars]
  | timestampTz t =>
      apply isSkipped_ofList (unblank_offsetChars t)
      simp [Instant.zeroOffset]
  | uuid u =>
      have hskipped := isSkipped_ofList u.unblank_toText (by simp [Uuid.toText]) ty
      rw [String.ofList_toList] at hskipped
      apply hskipped

/-- An operand that is given is coerced. -/
theorem operand_of_given {j : Json} (h : isSkipped ty j = false) (column : Ident) (w : Value) :
  Condition.operand column ty (some j) = .ok (some w) ↔ (coerce ty j).toOption = some w
  := by
  rw [Condition.operand, h]
  cases coerce ty j with
  | error r => simp [Except.toOption]
  | ok w' => simp [Except.toOption]

/-- A rendered value is coerced to its family as it is written, and to the same value exactly when
it comes back. The same holds for what the object of a row has under the last of its names, taken as
an operand for a column of the family. -/
theorem coerce_toJson_iff (hty : v.type? = some ty) (hrendered : v.IsRendered) :
  (coerce ty v.toJson).toOption = v.written?
    ∧ ((∃ w, coerce ty v.toJson = .ok w ∧ w.Same v) ↔ v.ComesBack)
    ∧ ∀ (r : DynamicRow) (name : String) (column : Ident), r.last? name = some v →
      ∃ j, (r.toJson.asFields?.bind fun fields => Fields.find? fields name) = some j
        ∧ ((∃ w, Condition.operand column ty (some j) = .ok (some w) ∧ w.Same v)
          ↔ v.ComesBack)
  := by
  have hcoerce := coerce_toJson hty hrendered
  have hok : ∀ w, coerce ty v.toJson = .ok w ↔ v.written? = some w := by
    intro w
    rw [← hcoerce]
    cases coerce ty v.toJson with
    | error r => simp [Except.toOption]
    | ok w' => simp [Except.toOption]
  refine ⟨hcoerce, ?_, ?_⟩
  · simp only [hok, same_written?_iff]
  · intro r name column hlast
    use v.toJson
    rw [r.find?_toJson, hlast]
    use rfl
    simp only [operand_of_given (isSkipped_toJson hty hrendered), hcoerce, same_written?_iff]

/-- The leap second at the end of the year 2016. -/
def leapSecond : Timestamp :=
  ⟨⟨17166, by decide, by decide⟩, ⟨86399, 1500000000, by decide, by decide⟩⟩

/-- The leap second at the end of a year comes back. -/
theorem coerce_toJson_iff_leapSecond :
  leapSecond.toOffsetText = "2016-12-31T23:59:60.500+00:00"
    ∧ (Value.timestampTz leapSecond).IsRendered
    ∧ ∃ w, coerce .timestampTz (Value.timestampTz leapSecond).toJson = .ok w
      ∧ w.Same (.timestampTz leapSecond)
  := by
  have htext : leapSecond.toOffsetText = "2016-12-31T23:59:60.500+00:00" := by decide +kernel
  have hback : (Value.timestampTz leapSecond).ComesBack := by
    show leapSecond.HasPlainYear ∧ leapSecond.time.EndsMinute
    decide +kernel
  have hrendered : (Value.timestampTz leapSecond).IsRendered := trivial
  use htext, hrendered
  apply (coerce_toJson_iff rfl hrendered).2.1.mpr hback

/-- The start of the year 10000. -/
def farInstant : Timestamp :=
  Date.midnight ⟨2932897, by decide, by decide⟩

/-- The start of the year 10000 does not come back as an instant. -/
theorem not_coerce_toJson :
  farInstant.toOffsetText = "+10000-01-01T00:00:00+00:00"
    ∧ ¬ ∀ (v : Value) (ty : ColumnType), v.type? = some ty → v.IsRendered →
      ∃ w, coerce ty v.toJson = .ok w ∧ w.Same v
  := by
  have htext : farInstant.toOffsetText = "+10000-01-01T00:00:00+00:00" := by decide +kernel
  use htext
  intro h
  obtain ⟨w, hcoerce, _⟩ := h (.timestampTz farInstant) .timestampTz rfl trivial
  have hrefused : coerce .timestampTz (Value.timestampTz farInstant).toJson
      = .error ⟨.timestampTz, .text farInstant.toOffsetText⟩ := by rfl
  rw [hrefused] at hcoerce
  contradiction

end Value

end BoundSql
