import BoundSql.Proofs.Entity.Requirement

/-!
# Restrictions in steps

A restriction under construction takes one step after the other. A step adds
requirements, or it has a fault, or it is silent and does neither. The finished
restriction has the requirements of its steps in order. The first fault is its error,
and without a fault it is refused as empty exactly when all of its steps are silent.
-/

namespace BoundSql

namespace WhereBuilder

/-- A step in the construction of a restriction. -/
inductive Step where
  | field (name : String) (p : Predicate)
  | optional (name : String) (p : Option Predicate)
  | notDeleted
  deriving Repr

/-- The restriction after a step. -/
def step (b : WhereBuilder) : Step → WhereBuilder
  | .field name p => b.field name p
  | .optional name p => b.optional name p
  | .notDeleted => b.notDeleted

/-- The restriction after steps, one after the other. -/
def run (b : WhereBuilder) (steps : List Step) : WhereBuilder :=
  steps.foldl step b

namespace Step

/-- The requirements of a predicate on the field that a name addresses. -/
def asked (e : Entity) (name : String) (p : Predicate) : List Requirement :=
  ((e.field? name).bind fun f => p.requirement? f.column).toList

/-- The error of a name that addresses no field. -/
def unknown? (e : Entity) (name : String) : Option Error :=
  if (e.field? name).isNone then some (.unknownField e.name name) else none

/-- The requirements that a step adds. -/
def requirements (e : Entity) : Step → List Requirement
  | .field name p => asked e name p
  | .optional name p => p.elim [] (asked e name)
  | .notDeleted =>
    e.softDeleteColumn?.toList.map fun column => ⟨column, .compare .equal (.bool false)⟩

/-- The clauses of the requirements that a step adds. -/
def clauses (e : Entity) (s : Step) : List Clause :=
  (s.requirements e).map Requirement.clause

/-- Steps add the clauses of their requirements. -/
theorem flatMap_clauses (e : Entity) (steps : List Step) :
  steps.flatMap (·.clauses e) = (steps.flatMap (·.requirements e)).map Requirement.clause
  := by
  rw [List.map_flatMap]
  rfl

/-- What is wrong with a step. -/
def fault? (e : Entity) : Step → Option Error
  | .field name _ => unknown? e name
  | .optional name p => p.bind fun _ => unknown? e name
  | .notDeleted =>
    if e.softDeleteColumn?.isNone then some (.badEntity e.name .noSoftDelete) else none

/-- A step is silent when it asks of a field of the entity to be outside of no values, or when it is
optional and asks nothing else. -/
def Silent (e : Entity) : Step → Prop
  | .field name p => (e.field? name).isSome = true ∧ p = .notAmong []
  | .optional _ none => True
  | .optional name (some p) => (e.field? name).isSome = true ∧ p = .notAmong []
  | .notDeleted => False

theorem asked_eq_nil_iff (e : Entity) (name : String) (p : Predicate) :
  asked e name p = [] ∧ unknown? e name = none
    ↔ (e.field? name).isSome = true ∧ p = .notAmong []
  := by
  rw [asked, unknown?]
  cases e.field? name with
  | none => simp
  | some f => simp [Predicate.requirement?_eq_none_iff]

/-- A silent step neither requires something nor has a fault, and no other step does so. -/
theorem silent_iff (e : Entity) (s : Step) :
  s.Silent e ↔ s.requirements e = [] ∧ s.fault? e = none
  := by
  cases s with
  | field name p => apply (asked_eq_nil_iff e name p).symm
  | optional name p =>
      cases p with
      | none => simp [Silent, requirements, fault?]
      | some p => apply (asked_eq_nil_iff e name p).symm
  | notDeleted =>
      rw [Silent, requirements, fault?]
      cases e.softDeleteColumn? with
      | none => simp
      | some column => simp

end Step

variable {e : Entity}

/-! ### Steps of a restriction -/

theorem field_eq (requirements : List Requirement) (failure : Option Error) (name : String)
    (p : Predicate) :
  field ⟨.ok e, requirements, failure⟩ name p
    = ⟨.ok e, requirements ++ Step.asked e name p, failure.or (Step.unknown? e name)⟩
  := by
  rw [field, Step.asked, Step.unknown?]
  cases hfield : e.field? name with
  | none => simp [fail, hfield]
  | some f => simp [hfield]

/-- A step adds its requirements, and its fault counts unless there was one before. -/
theorem step_eq (requirements : List Requirement) (failure : Option Error) (s : Step) :
  step ⟨.ok e, requirements, failure⟩ s
    = ⟨.ok e, requirements ++ s.requirements e, failure.or (s.fault? e)⟩
  := by
  cases s with
  | field name p => apply field_eq
  | optional name p =>
      cases p with
      | none => simp [step, optional, Step.requirements, Step.fault?]
      | some p => apply field_eq
  | notDeleted =>
      rw [step, notDeleted, Step.requirements, Step.fault?]
      cases hcolumn : e.softDeleteColumn? with
      | none => simp [fail, hcolumn]
      | some column => simp [hcolumn]

/-- Steps add their requirements in order, and the first fault counts if there was none before. -/
theorem run_eq (requirements : List Requirement) (failure : Option Error) (steps : List Step) :
  run ⟨.ok e, requirements, failure⟩ steps
    = ⟨.ok e, requirements ++ steps.flatMap (·.requirements e),
      failure.or (steps.findSome? (·.fault? e))⟩
  := by
  induction steps generalizing requirements failure with
  | nil => simp [run]
  | cons s steps ih =>
      rw [run, List.foldl_cons, step_eq, ← run, ih, List.flatMap_cons, List.append_assoc,
        List.findSome?_cons, Option.or_assoc]
      congr 2
      cases s.fault? e with
      | none => simp
      | some err => simp

/-- Without an entity no step changes anything. -/
theorem run_error (err : Error) (requirements : List Requirement) (failure : Option Error)
    (steps : List Step) :
  run ⟨.error err, requirements, failure⟩ steps = ⟨.error err, requirements, failure⟩
  := by
  induction steps with
  | nil => rfl
  | cons s steps ih =>
      have hstep : step ⟨.error err, requirements, failure⟩ s
          = ⟨.error err, requirements, failure⟩ := by
        cases s with
        | field name p => rfl
        | optional name p =>
            cases p with
            | none => rfl
            | some p => rfl
        | notDeleted => rfl
      rw [run, List.foldl_cons, hstep, ← run, ih]

/-! ### Finished restrictions -/

/-- The error that counts at the end of steps: that of the entity, else the first fault. -/
def fault? (entity : Except Error Entity) (steps : List Step) : Option Error :=
  match entity with
  | .error err => some err
  | .ok e => steps.findSome? (·.fault? e)

/-- An error that counts is the error of the restriction. -/
theorem build_of_fault {entity : Except Error Entity} {steps : List Step} {err : Error}
    (h : fault? entity steps = some err) :
  ((start entity).run steps).build = .error err
  := by
  cases entity with
  | error err' =>
      obtain rfl := Option.some.inj h
      rw [start, run_error, build]
  | ok e =>
      rw [fault?] at h
      rw [start, run_eq, h, build]
      rfl

/-- Without a fault the requirements are those of the steps. -/
theorem build_of_sound {steps : List Step} (h : steps.findSome? (·.fault? e) = none) :
  ((start (.ok e)).run steps).build
    = if hnone : steps.flatMap (·.requirements e) = [] then .error .emptyPredicate
      else .ok ⟨steps.flatMap (·.requirements e), hnone⟩
  := by
  rw [start, run_eq, h, build]
  simp

/-- A finished restriction has the requirements of its steps in order. -/
theorem requirements_of_build {entity : Except Error Entity} {steps : List Step}
    {rows : Restriction} (h : ((start entity).run steps).build = .ok rows) :
  ∃ e, entity = .ok e ∧ rows.requirements = steps.flatMap (·.requirements e)
  := by
  cases hfault : fault? entity steps with
  | some err =>
      rw [build_of_fault hfault] at h
      contradiction
  | none =>
      cases entity with
      | error err => contradiction
      | ok e =>
          use e, rfl
          rw [build_of_sound hfault] at h
          split at h
          · contradiction
          · obtain rfl := Except.ok.inj h
            rfl

/-- A restriction in silent steps is refused as empty. -/
theorem build_of_silent {steps : List Step} (h : ∀ s ∈ steps, s.Silent e) :
  ((start (.ok e)).run steps).build = .error .emptyPredicate
  := by
  have hsound : steps.findSome? (·.fault? e) = none := by
    rw [List.findSome?_eq_none_iff]
    intro s hs
    apply ((Step.silent_iff e s).mp (h s hs)).2
  have hnone : steps.flatMap (·.requirements e) = [] := by
    rw [List.flatMap_eq_nil_iff]
    intro s hs
    apply ((Step.silent_iff e s).mp (h s hs)).1
  rw [build_of_sound hsound, dif_pos hnone]

end WhereBuilder

end BoundSql
