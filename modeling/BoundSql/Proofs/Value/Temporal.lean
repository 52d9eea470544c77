import BoundSql.Proofs.Calendar.Colon
import BoundSql.Proofs.Value.Reading

/-!
# Dates and times of one text

A text is coerced to a date, to a timestamp and to an instant alike: it denotes one
instant in UTC, of which the three families keep the day or the day and the time. So an
operand of a filter denotes the same day whichever of them its column is declared to
have, and the same instant when they have a time.
-/

namespace BoundSql

open BoundSql.Text

/-- The families of dates and times. -/
def ColumnType.temporal : List ColumnType := [.date, .timestamp, .timestampTz]

/-- The instant that a JSON value denotes, if it is the text of one. -/
def Json.instant? : Json → Option Timestamp
  | .string s => Instant.ofChars? (trim s).toList
  | _ => none

namespace Value

/-- What a family of dates and times keeps of an instant. -/
def ofInstant (ty : ColumnType) (t : Timestamp) : Value :=
  match ty with
  | .date => .date t.date
  | .timestamp => .timestamp t
  | _ => .timestampTz t

/-- The day of a date or a time, in UTC. -/
def day? : Value → Option Date
  | .date d => some d
  | .timestamp t => some t.date
  | .timestampTz t => some t.date
  | _ => none

/-- The instant of a time, in UTC. -/
def instant? : Value → Option Timestamp
  | .timestamp t => some t
  | .timestampTz t => some t
  | _ => none

variable {ty ty' : ColumnType}

theorem day?_ofInstant (hty : ty ∈ ColumnType.temporal) (t : Timestamp) :
  (ofInstant ty t).day? = some t.date
  := by
  simp only [ColumnType.temporal, List.mem_cons, List.not_mem_nil, or_false] at hty
  rcases hty with rfl | rfl | rfl
  · rfl
  · rfl
  · rfl

theorem instant?_ofInstant (hty : ty ∈ ColumnType.temporal) (hdate : ty ≠ .date) (t : Timestamp) :
  (ofInstant ty t).instant? = some t
  := by
  simp only [ColumnType.temporal, List.mem_cons, List.not_mem_nil, or_false] at hty
  rcases hty with rfl | rfl | rfl
  · contradiction
  · rfl
  · rfl

/-- A text is read in each family of dates and times from the instant that it denotes. -/
theorem ofText?_of_temporal (hty : ty ∈ ColumnType.temporal) (s : String) :
  ofText? ty s = (Json.string s).instant?.map (ofInstant ty)
  := by
  simp only [ColumnType.temporal, List.mem_cons, List.not_mem_nil, or_false] at hty
  rcases hty with rfl | rfl | rfl
  · simp only [ofText?, Instant.ofChars?_date, Option.map_map, Json.instant?]
    rfl
  · rfl
  · rfl

/-- A JSON value other than null is coerced to a family of dates and times when it denotes an
instant. -/
theorem coerce_of_temporal (hty : ty ∈ ColumnType.temporal) {j : Json} (hj : j.isNull = false) :
  (coerce ty j).toOption = j.instant?.map (ofInstant ty)
  := by
  cases j with
  | null => contradiction
  | string s => apply (toOption_ofText ty s).trans (ofText?_of_temporal hty s)
  | number n =>
      -- an integer and a double are refused alike
      simp only [ColumnType.temporal, List.mem_cons, List.not_mem_nil, or_false] at hty
      rcases hty with rfl | rfl | rfl
      all_goals
        simp only [coerce, reduceCtorEq, if_false]
        cases n.int64? with
        | none => rfl
        | some i => rfl
  | bool _ | array _ | object _ =>
      simp only [ColumnType.temporal, List.mem_cons, List.not_mem_nil, or_false] at hty
      rcases hty with rfl | rfl | rfl
      · rfl
      · rfl
      · rfl

theorem coerce_eq_ok_iff_of_temporal (hty : ty ∈ ColumnType.temporal) {j : Json}
    (hj : j.isNull = false) {v : Value} :
  coerce ty j = .ok v ↔ ∃ t, j.instant? = some t ∧ ofInstant ty t = v
  := by
  rw [← Option.map_eq_some_iff, ← coerce_of_temporal hty hj]
  cases coerce ty j with
  | error r => simp [Except.toOption]
  | ok w => simp [Except.toOption]

/-! ### Operands -/

/-- No family of dates and times has blanks as values. -/
theorem isSkipped_of_temporal (hty : ty ∈ ColumnType.temporal) (j : Json) :
  isSkipped ty j = isSkipped .timestamp j
  := by
  simp only [ColumnType.temporal, List.mem_cons, List.not_mem_nil, or_false] at hty
  rcases hty with rfl | rfl | rfl
  · rfl
  · rfl
  · rfl

theorem isNull_of_isSkipped {j : Json} (h : isSkipped ty j = false) :
  j.isNull = false
  := by
  rw [isSkipped, Bool.or_eq_false_iff] at h
  apply h.1

variable {column : Ident} {o : Option Json} {v : Value}

/-- An operand is skipped for all families of dates and times or for none. -/
theorem operand_eq_none_of_temporal (hty : ty ∈ ColumnType.temporal)
    (hty' : ty' ∈ ColumnType.temporal) (h : Condition.operand column ty o = .ok none) :
  Condition.operand column ty' o = .ok none
  := by
  cases o with
  | none => rfl
  | some j =>
      rw [Condition.operand, isSkipped_of_temporal hty] at h
      rw [Condition.operand, isSkipped_of_temporal hty']
      split at h
      · next hskipped => rw [if_pos hskipped]
      · split at h
        · cases h
        · cases h

/-- An operand that is a value is what the family keeps of the instant that it denotes. -/
theorem operand_eq_some_iff_of_temporal (hty : ty ∈ ColumnType.temporal) :
  Condition.operand column ty o = .ok (some v)
    ↔ ∃ j t, o = some j ∧ isSkipped .timestamp j = false ∧ j.instant? = some t
      ∧ ofInstant ty t = v
  := by
  cases o with
  | none => simp [Condition.operand]
  | some j =>
      cases hskipped : isSkipped .timestamp j with
      | true => simp [Condition.operand, isSkipped_of_temporal hty, hskipped]
      | false =>
          have hgiven : isSkipped ty j = false := by rw [isSkipped_of_temporal hty, hskipped]
          rw [operand_of_given hgiven, coerce_of_temporal hty (isNull_of_isSkipped hgiven)]
          simp [hskipped]

/-- A text is coerced to a date, a timestamp or an instant, or to none of them. The date and the
instant are those to which the timestamp is converted. An operand is skipped or refused for all
three, or it denotes the same day for all, and the same instant for those with a time. -/
theorem coerce_temporal_agree (s : String) :
  ((∃ v, coerce .date (.string s) = .ok v) ↔ ∃ v, coerce .timestamp (.string s) = .ok v)
    ∧ ((∃ v, coerce .timestampTz (.string s) = .ok v)
      ↔ ∃ v, coerce .timestamp (.string s) = .ok v)
    ∧ (∀ v, coerce .timestamp (.string s) = .ok v →
      coerce .date (.string s) = v.convert .date
        ∧ coerce .timestampTz (.string s) = v.convert .timestampTz)
    ∧ ∀ (column : Ident) (o : Option Json) (ty ty' : ColumnType),
      ty ∈ ColumnType.temporal → ty' ∈ ColumnType.temporal →
      (Condition.operand column ty o = .ok none → Condition.operand column ty' o = .ok none)
        ∧ ∀ v, Condition.operand column ty o = .ok (some v) →
          ∃ v', Condition.operand column ty' o = .ok (some v')
            ∧ (∃ d, v.day? = some d ∧ v'.day? = some d)
            ∧ (ty ≠ .date → ty' ≠ .date → ∃ t, v.instant? = some t ∧ v'.instant? = some t)
  := by
  have hdate : ColumnType.date ∈ ColumnType.temporal := by decide
  have htime : ColumnType.timestamp ∈ ColumnType.temporal := by decide
  have hzoned : ColumnType.timestampTz ∈ ColumnType.temporal := by decide
  have hcoerce : ∀ ty ∈ ColumnType.temporal, ∀ v, coerce ty (.string s) = .ok v
      ↔ ∃ t, (Json.string s).instant? = some t ∧ ofInstant ty t = v := by
    intro ty hty v
    apply coerce_eq_ok_iff_of_temporal hty rfl
  have haccepts : ∀ ty ∈ ColumnType.temporal, (∃ v, coerce ty (.string s) = .ok v)
      ↔ ∃ t, (Json.string s).instant? = some t := by
    intro ty hty
    constructor
    · rintro ⟨v, hv⟩
      obtain ⟨t, ht, -⟩ := (hcoerce ty hty v).mp hv
      use t
    · rintro ⟨t, ht⟩
      use ofInstant ty t
      apply (hcoerce ty hty _).mpr ⟨t, ht, rfl⟩
  refine ⟨?_, ?_, ?_, ?_⟩
  · rw [haccepts _ hdate, haccepts _ htime]
  · rw [haccepts _ hzoned, haccepts _ htime]
  · intro v hv
    obtain ⟨t, ht, rfl⟩ := (hcoerce _ htime v).mp hv
    constructor
    · apply (hcoerce _ hdate _).mpr ⟨t, ht, rfl⟩
    · apply (hcoerce _ hzoned _).mpr ⟨t, ht, rfl⟩
  · intro column o ty ty' hty hty'
    use operand_eq_none_of_temporal hty hty'
    intro v hv
    obtain ⟨j, t, rfl, hskipped, ht, rfl⟩ := (operand_eq_some_iff_of_temporal hty).mp hv
    have hother : Condition.operand column ty' (some j) = .ok (some (ofInstant ty' t)) :=
      (operand_eq_some_iff_of_temporal hty').mpr ⟨j, t, rfl, hskipped, ht, rfl⟩
    use ofInstant ty' t, hother
    constructor
    · use t.date, day?_ofInstant hty t, day?_ofInstant hty' t
    · intro hne hne'
      use t, instant?_ofInstant hty hne t, instant?_ofInstant hty' hne' t

/-- Half past four in the morning of the second of March 2024. -/
def earlyInstant : Timestamp :=
  ⟨⟨19784, by decide, by decide⟩, ⟨16200, 0, by decide, Nat.succ_pos _⟩⟩

/-- A text whose offset moves the day denotes the day in UTC for all families. -/
theorem coerce_temporal_agree_offset :
  coerce .date (.string "2024-03-01T23:30:00-05:00") = .ok (.date earlyInstant.date)
    ∧ ∀ column, ∃ v, Condition.operand column .timestamp
        (some (.string "2024-03-01T23:30:00-05:00")) = .ok (some v)
      ∧ v.instant? = some earlyInstant
  := by
  have hcoerce : coerce .timestamp (.string "2024-03-01T23:30:00-05:00")
      = .ok (.timestamp earlyInstant) := by rfl
  obtain ⟨-, -, hconvert, hoperand⟩ := coerce_temporal_agree "2024-03-01T23:30:00-05:00"
  constructor
  · apply (hconvert _ hcoerce).1
  · intro column
    have hzoned : Condition.operand column .timestampTz
        (some (.string "2024-03-01T23:30:00-05:00"))
        = .ok (some (.timestampTz earlyInstant)) := by rfl
    obtain ⟨v, hv, -, hinstant⟩ := (hoperand column _ .timestampTz .timestamp (by decide)
      (by decide)).2 _ hzoned
    obtain ⟨t, ht, hv'⟩ := hinstant (by decide) (by decide)
    use v, hv
    rw [hv', ← ht]
    rfl

end Value

end BoundSql
