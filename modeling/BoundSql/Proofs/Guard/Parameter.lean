import BoundSql.Proofs.Guard.Question
import BoundSql.Proofs.Json.Number

/-!
# Parameters of questions

A marker is bound to what its parameter is without a declared type. Read as JSON
again this is the parameter, unless it is an integer beyond the signed words: such an
integer is rounded to a multiple of 2048 on the way.
-/

namespace BoundSql

/-- The value that a number has when it is bound. -/
def JsonNumber.boundValue : JsonNumber → Rat
  | .integer n => if n.value < 2 ^ 63 then n.value else n.rounded
  | .float x => x.double.value?.getD 0

namespace Json

/-- Two JSON values are the same, numbers by their values. -/
def Same (v w : Json) : Prop :=
  v = w ∨ ∃ m n, v = .number m ∧ w = .number n ∧ m.value = n.value

theorem same_number_iff {m n : JsonNumber} :
  (number m).Same (number n) ↔ m.value = n.value
  := by
  constructor
  · rintro (h | ⟨m', n', hm, hn, hvalue⟩)
    · rw [number.inj h]
    · rw [number.inj hm, number.inj hn, hvalue]
  · intro h
    right
    use m, n

/-- The value is no integer beyond the signed words, or a double has the integer. -/
def IsCarried : Json → Prop
  | .number (.integer n) => n.value < 2 ^ 63 ∨ 2048 ∣ n.value
  | _ => True

end Json

theorem JsonNumber.boundValue_eq_iff (n : JsonNumber) :
  n.boundValue = n.value ↔ (Json.number n).IsCarried
  := by
  cases n with
  | float x => exact iff_of_true rfl trivial
  | integer n =>
      rw [Json.IsCarried, boundValue, value]
      split
      · next hn => exact iff_of_true rfl (.inl hn)
      · next hn =>
          rw [or_iff_right hn, ← WordInt.rounded_eq_iff (Int.not_lt.mp hn)]
          norm_cast

namespace Value

/-- A number comes back as a number, of the value that it has when it is bound. -/
theorem toJson_ofJson_number (n : JsonNumber) :
  ∃ m, (ofJson (.number n)).toJson = .number m ∧ m.value = n.boundValue
  := by
  cases n with
  | float x =>
      use .float x
      simp [ofJson, JsonNumber.int64?, toJson, jsonOfDouble, JsonNumber.toDouble,
        JsonNumber.ofDouble?, FiniteDouble.of?, x.finite, JsonNumber.value, JsonNumber.boundValue]
  | integer n =>
      rcases Int.lt_or_le n.value (2 ^ 63) with hn | hn
      · obtain ⟨i, hi, hvalue⟩ := WordInt.exists_int64Of? hn
        have hint : (JsonNumber.integer n).int64? = some i := hi
        use .ofInt64 i
        rw [ofJson, hint]
        use rfl
        rw [JsonNumber.boundValue, if_pos hn, ← hvalue]
        rfl
      · obtain ⟨m, hm, hvalue⟩ := JsonNumber.exists_ofDouble?_toDouble hn
        use m
        rw [ofJson, JsonNumber.int64?_integer_of_le hn]
        constructor
        · rw [toJson, jsonOfDouble, hm]
        · rw [JsonNumber.boundValue, if_neg (Int.not_lt.mpr hn), hvalue]

theorem same_toJson_ofJson (v : Json) :
  (ofJson v).toJson.Same v ↔ v.IsCarried
  := by
  cases v with
  | number n =>
      obtain ⟨m, hm, hvalue⟩ := toJson_ofJson_number n
      rw [hm, Json.same_number_iff, hvalue, n.boundValue_eq_iff]
  | _ => exact iff_of_true (.inl rfl) trivial

/-- A JSON value comes back from the value that it is without a declared type, as a number of the
value that is bound if it is a number, and as the same value exactly when it is carried. The same
holds for what a question binds to a marker whose parameter it is. -/
theorem toJson_ofJson_iff (v : Json) :
  ((ofJson v).toJson.Same v ↔ v.IsCarried)
    ∧ (∀ n, v = .number n → ∃ m, (ofJson v).toJson = .number m ∧ m.value = n.boundValue)
    ∧ ∀ (rule : GuardRule) (params : ParameterBag) (statement : Statement) (name : String),
      rule.question params = .ok statement → name ∈ Marker.occurring rule.predicate →
      params.get? name = some v →
      ∃ w, statement.params[Marker.number (Marker.names rule.predicate) name - 1]? = some w
        ∧ (w.toJson.Same v ↔ v.IsCarried)
  := by
  refine ⟨same_toJson_ofJson v, ?_, ?_⟩
  · rintro n rfl
    apply toJson_ofJson_number
  · intro rule params statement name hquestion hname hvalue
    obtain ⟨j, hj, hbound⟩ := (GuardRule.binds_of_question hquestion).value name hname
    obtain rfl := Option.some.inj (hvalue.symm.trans hj)
    exact ⟨ofJson v, hbound, same_toJson_ofJson v⟩

/-- The least integer beyond the signed words is bound as it is. -/
theorem toJson_ofJson_iff_bound :
  ∃ (statement : Statement) (w : Value),
    GuardRule.question ⟨1, "task", "few", "SELECT @n > 0", true, 0⟩ (.ofPairs [("n", .number
        (.integer ⟨9223372036854775808, by decide, by decide⟩))]) = .ok statement
      ∧ statement.params[0]? = some w
      ∧ w.toJson.Same (.number (.integer ⟨9223372036854775808, by decide, by decide⟩))
  := by
  have hname : "n" ∈ Marker.occurring "SELECT @n > 0" := by decide +kernel
  have hplace : Marker.number (Marker.names "SELECT @n > 0") "n" - 1 = 0 := by decide +kernel
  have haccepted : Predicate.fault? "SELECT @n > 0" = none := by decide +kernel
  have hquestion := (GuardRule.question_eq_ok_iff ⟨1, "task", "few", "SELECT @n > 0", true, 0⟩
    (.ofPairs [("n", .number (.integer ⟨9223372036854775808, by decide, by decide⟩))]) _).mpr
      ⟨haccepted, by decide +kernel, rfl⟩
  obtain ⟨w, hw, hsame⟩ := (toJson_ofJson_iff _).2.2 _ _ _ "n" hquestion hname rfl
  have hcarried : (Json.number (.integer ⟨9223372036854775808, by decide, by decide⟩)).IsCarried :=
    .inr (by decide)
  rw [hplace] at hw
  exact ⟨_, w, hquestion, hw, hsame.mpr hcarried⟩

/-- The largest integer without a sign does not come back. -/
theorem not_toJson_ofJson :
  ¬ (ofJson (.number (.integer ⟨18446744073709551615, by decide, by decide⟩))).toJson.Same
      (.number (.integer ⟨18446744073709551615, by decide, by decide⟩))
    ∧ ¬ ∀ v : Json, (ofJson v).toJson.Same v
  := by
  have hnot : ¬ (ofJson (.number (.integer
      ⟨18446744073709551615, by decide, by decide⟩))).toJson.Same
        (.number (.integer ⟨18446744073709551615, by decide, by decide⟩)) := by
    rw [same_toJson_ofJson]
    show ¬(_ ∨ _)
    decide
  exact ⟨hnot, fun h => hnot (h _)⟩

end Value

end BoundSql
