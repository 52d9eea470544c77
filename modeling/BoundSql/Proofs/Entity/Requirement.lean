import BoundSql.Entity.Where
import Mathlib.Tactic.Use

/-!
# Requirements and clauses

A requirement on a column is written as a clause is: for each predicate, and for
no values as for some, the fragment of the requirement is that of a clause. So a
restriction is a conjunction of clauses behind WHERE.
-/

namespace BoundSql

open Fragment

/-! ### Requirements -/

namespace Requirement

/-- The clause that is written like a requirement. -/
def clause (r : Requirement) : Clause :=
  match r.predicate with
  | .compare comparison v => .compare r.column comparison v
  | .like pattern => .like r.column false pattern
  | .between low high => .between r.column low high
  | .among [] => .never
  | .among (v :: vs) => .among r.column (v :: vs)
  | .notAmong vs => .notAmong r.column vs
  | .null => .null r.column
  | .notNull => .notNull r.column

/-- A comparison has the same operator in requirements and in clauses. -/
theorem operator_eq_sign (comparison : Comparison) :
  operator comparison = comparison.sign
  := by
  cases comparison with
  | _ => rfl

/-- A requirement is written like its clause. -/
theorem fragment_eq (r : Requirement) :
  r.fragment = r.clause.fragment
  := by
  obtain ⟨column, p⟩ := r
  cases p with
  | compare comparison v =>
      simp only [fragment, clause, compared, operator_eq_sign, Clause.fragment]
  | among vs =>
      cases vs with
      | nil => rfl
      | cons v vs => rfl
  | _ => rfl

end Requirement

/-! ### Predicates -/

namespace Predicate

/-- A predicate requires something unless it is to be outside of no values. -/
theorem requirement?_eq_none_iff (column : Ident) (p : Predicate) :
  p.requirement? column = none ↔ p = .notAmong []
  := by
  cases p with
  | notAmong vs =>
      cases vs with
      | nil => simp [requirement?]
      | cons v vs => simp [requirement?]
  | _ => simp [requirement?]

end Predicate

/-! ### Restrictions -/

namespace Restriction

/-- The clauses of a restriction, one for each requirement. -/
def clauses (r : Restriction) : List Clause :=
  r.requirements.map Requirement.clause

theorem clauses_ne_nil (r : Restriction) :
  r.clauses ≠ []
  := by
  rw [clauses, ne_eq, List.map_eq_nil_iff]
  apply r.nonempty

/-- A restriction is written as the conjunction of its clauses behind WHERE. -/
theorem fragment_eq (r : Restriction) :
  r.fragment = text "WHERE " ++ Clause.conjunction r.clauses
  := by
  have hfragments : r.requirements.map Requirement.fragment = r.clauses.map Clause.fragment := by
    rw [clauses, List.map_map]
    apply List.map_congr_left
    intro requirement _
    apply requirement.fragment_eq
  rw [fragment, hfragments, Clause.conjunction]

end Restriction

end BoundSql
