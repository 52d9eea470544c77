import BoundSql.Value.Coerce
import Mathlib.Tactic.Use

/-!
# Families of moved values

What is read from a text, moved or coerced to a family is a value of the family.
Only null, as itself or as JSON, is moved to null.
-/

namespace BoundSql.Value

variable {ty : ColumnType} {v w : Value}

/-- Only null is of no family. -/
theorem type?_eq_none_iff :
  v.type? = none ↔ v = .null
  := by
  cases v with
  | _ => simp [type?]

/-- A value is of a family or null when it is of no other family. -/
theorem type?_of_all (h : v.type?.all (· = ty) = true) :
  v.type? = some ty ∨ v = .null
  := by
  cases htype : v.type? with
  | none =>
      right
      apply type?_eq_none_iff.mp htype
  | some ty' =>
      left
      simpa [htype] using h

theorem type?_of_ofText? {s : String} (h : ofText? ty s = some w) :
  w.type? = some ty
  := by
  cases ty with
  | text =>
      obtain rfl := Option.some.inj h
      rfl
  | json =>
      obtain rfl := Option.some.inj h
      rfl
  | _ =>
      simp only [ofText?, Option.map_eq_some_iff] at h
      obtain ⟨_, _, rfl⟩ := h
      rfl

/-- A text is read as a value of the family. -/
theorem type?_of_ofText {s : String} (h : ofText ty s = .ok w) :
  w.type? = some ty
  := by
  rw [ofText] at h
  split at h
  · next hread =>
      obtain rfl := Except.ok.inj h
      apply type?_of_ofText? hread
  · contradiction

/-- A value that is moved to another family belongs to it. -/
theorem type?_of_move (h : v.move ty = .ok w) :
  w.type? = some ty
  := by
  cases v with
  | float x =>
      cases ty with
      | integer | decimal | json =>
          rw [move] at h
          split at h
          · obtain rfl := Except.ok.inj h
            rfl
          · contradiction
      | _ => cases h <;> rfl
  | decimal d =>
      cases ty with
      | integer =>
          rw [move] at h
          split at h
          · split at h
            · obtain rfl := Except.ok.inj h
              rfl
            · contradiction
          · contradiction
      | _ => cases h <;> rfl
  | _ =>
      cases ty with
      | _ => cases h <;> rfl

theorem type?_of_moved (hv : v ≠ .null) (h : v.moved ty = .ok w) :
  w.type? = some ty
  := by
  rw [moved] at h
  split at h
  · next hall =>
      obtain rfl := Except.ok.inj h
      apply (type?_of_all hall).resolve_right hv
  · apply type?_of_move h

/-- A JSON value is coerced to a value of the family; only null is coerced to null. -/
theorem type?_of_coerce {j : Json} (h : coerce ty j = .ok w) :
  w.type? = some ty ∨ j = .null ∧ w = .null
  := by
  cases j with
  | null =>
      obtain rfl := Except.ok.inj h
      right
      use rfl
  | string s =>
      left
      apply type?_of_ofText h
  | bool b =>
      left
      apply type?_of_moved (by simp) h
  | number n =>
      left
      rw [coerce] at h
      split at h
      · next hty =>
          split at h
          · obtain rfl := Except.ok.inj h
            rw [hty]
            rfl
          · contradiction
      · split at h
        · apply type?_of_moved (by simp) h
        · apply type?_of_moved (by simp) h
  | array _ | object _ =>
      left
      cases ty with
      | _ => cases h <;> rfl

/-- A value is converted to a value of the family; only null, as itself or as JSON, is converted to
null. -/
theorem type?_of_convert (h : v.convert ty = .ok w) :
  w.type? = some ty ∨ w = .null ∧ (v = .null ∨ v = .json .null)
  := by
  unfold convert at h
  split at h
  · next hall =>
      obtain rfl := Except.ok.inj h
      apply (type?_of_all hall).imp_right
      intro hv
      use hv, .inl hv
  · cases v with
    | text s =>
        left
        apply type?_of_ofText h
    | json j =>
        apply (type?_of_coerce h).imp_right
        rintro ⟨rfl, rfl⟩
        use rfl, .inr rfl
    | _ =>
        left
        apply type?_of_move h

end BoundSql.Value
