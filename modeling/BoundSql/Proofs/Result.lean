import Mathlib.Tactic.Use

/-!
# Results

A result is a value or an error. A sequence of results has the value of its last
part when every part has one, else the error of the first part that fails.
-/

namespace BoundSql

variable {ε ε' α β : Type}

/-- What goes on with a result succeeds when both parts do. -/
theorem bind_eq_ok {r : Except ε α} {f : α → Except ε β} {b : β} :
  (r >>= f) = .ok b ↔ ∃ a, r = .ok a ∧ f a = .ok b
  := by
  cases r with
  | error e => simp [bind, Except.bind]
  | ok a => simp [bind, Except.bind]

/-- A sequence fails with the error of its first part, or of its second one behind the value of the
first. -/
theorem bind_eq_error {r : Except ε α} {f : α → Except ε β} {e : ε} :
  r >>= f = .error e ↔ r = .error e ∨ ∃ a, r = .ok a ∧ f a = .error e
  := by
  cases r with
  | error e' => simp [bind, Except.bind]
  | ok a => simp [bind, Except.bind]

theorem mapError_eq_ok_iff {f : ε → ε'} {r : Except ε α} {a : α} :
  r.mapError f = .ok a ↔ r = .ok a
  := by
  cases r with
  | error e =>
      change Except.error (f e) = .ok a ↔ _
      simp
  | ok b =>
      change Except.ok b = .ok a ↔ _
      simp

theorem mapError_eq_error_iff {f : ε → ε'} {r : Except ε α} {e' : ε'} :
  r.mapError f = .error e' ↔ ∃ e, r = .error e ∧ e' = f e
  := by
  cases r with
  | error e =>
      change Except.error (f e) = .error e' ↔ _
      simp [eq_comm]
  | ok a =>
      change Except.ok a = .error e' ↔ _
      simp

theorem toOption_bind_eq_some {r : Except ε α} {f : α → Option β} {b : β} :
  r.toOption.bind f = some b ↔ ∃ a, r = .ok a ∧ f a = some b
  := by
  cases r with
  | error e => simp [Except.toOption]
  | ok a => simp [Except.toOption]

/-- A list is read with no other error than those of reading one of its parts. -/
theorem mapM_ne_error {f : α → Except ε β} {e : ε} (h : ∀ a, f a ≠ .error e) (l : List α) :
  l.mapM f ≠ .error e
  := by
  induction l with
  | nil => simp [pure, Except.pure]
  | cons a l ih =>
      rw [List.mapM_cons]
      intro hcons
      cases hfirst : f a with
      | error e' =>
          rw [hfirst] at hcons
          obtain rfl := Except.error.inj hcons
          apply h a hfirst
      | ok b =>
          cases hrest : l.mapM f with
          | error e' =>
              rw [hfirst, hrest] at hcons
              obtain rfl := Except.error.inj hcons
              apply ih hrest
          | ok bs =>
              rw [hfirst, hrest] at hcons
              contradiction

theorem map_ne_error {r : Except ε α} {e : ε} (h : r ≠ .error e) (f : α → β) :
  r.map f ≠ .error e
  := by
  cases r with
  | error e' =>
      intro herror
      apply h
      apply congrArg Except.error (Except.error.inj herror)
  | ok a => simp [Except.map]

theorem option_mapM_ne_error {f : α → Except ε β} {e : ε} (h : ∀ a, f a ≠ .error e)
    (o : Option α) :
  o.mapM f ≠ .error e
  := by
  cases o with
  | none => simp [pure, Except.pure]
  | some a => apply map_ne_error (h a)

end BoundSql
