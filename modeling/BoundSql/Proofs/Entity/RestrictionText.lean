import BoundSql.Proofs.Clause.Text
import BoundSql.Proofs.Entity.Columns
import BoundSql.Proofs.Entity.Restriction

/-!
# Restrictions as they are written

A restriction in steps is refused for the first fault, that of its entity or else
that of the first step that has one, whatever steps follow. Without a fault it is
refused as empty when all of its steps are silent, and else it is written as the
clauses of its steps in order with AND between them behind WHERE, with their values
bound in the same order.
-/

namespace BoundSql

open Fragment

namespace WhereBuilder

variable {entity : Except Error Entity} {e : Entity} {steps : List Step} {s : Step} {err : Error}

/-! ### First faults -/

/-- What is wrong with a step: it asks for a field that there is none of, or for the rows that are
not deleted when no column tells. -/
inductive Step.Fault (e : Entity) : Step → Error → Prop where
  | field {name : String} {p : Predicate} (h : e.field? name = none) :
      Fault e (.field name p) (.unknownField e.name name)
  | optional {name : String} {p : Predicate} (h : e.field? name = none) :
      Fault e (.optional name (some p)) (.unknownField e.name name)
  | notDeleted (h : e.audited = false) : Fault e .notDeleted (.badEntity e.name .noSoftDelete)

theorem Step.unknown?_eq_some_iff {name : String} :
  unknown? e name = some err ↔ e.field? name = none ∧ err = .unknownField e.name name
  := by
  rw [unknown?]
  cases e.field? name with
  | none => simp [eq_comm]
  | some f => simp

theorem Step.fault?_eq_some_iff :
  s.fault? e = some err ↔ s.Fault e err
  := by
  constructor
  · intro h
    cases s with
    | field name p =>
        obtain ⟨hname, rfl⟩ := unknown?_eq_some_iff.mp h
        apply Fault.field hname
    | optional name p =>
        cases p with
        | none => contradiction
        | some p =>
            obtain ⟨hname, rfl⟩ := unknown?_eq_some_iff.mp h
            apply Fault.optional hname
    | notDeleted =>
        rw [fault?, Entity.softDeleteColumn?] at h
        cases haudited : e.audited with
        | true => simp [haudited] at h
        | false =>
            obtain rfl : _ = err := by simpa [haudited] using h
            apply Fault.notDeleted haudited
  · intro h
    cases h with
    | field h => apply unknown?_eq_some_iff.mpr ⟨h, rfl⟩
    | optional h => apply unknown?_eq_some_iff.mpr ⟨h, rfl⟩
    | notDeleted h => simp [fault?, Entity.softDeleteColumn?, h]

/-- The first fault of a restriction in steps: that of its entity, else that of a step behind steps
without a fault. -/
inductive FirstFault (entity : Except Error Entity) (steps : List Step) : Error → Prop where
  | entity {err : Error} (h : entity = .error err) : FirstFault entity steps err
  | step {e : Entity} {before after : List Step} {s : Step} {err : Error} (h : entity = .ok e)
      (hsteps : steps = before ++ s :: after) (hbefore : ∀ t ∈ before, ∀ err, ¬ t.Fault e err)
      (hs : s.Fault e err) : FirstFault entity steps err

/-- A first fault stays the first whatever steps follow. -/
theorem FirstFault.append (h : FirstFault entity steps err) (later : List Step) :
  FirstFault entity (steps ++ later) err
  := by
  cases h with
  | entity h => apply FirstFault.entity h
  | @step e before after s _ h hsteps hbefore hs =>
      have hlater : steps ++ later = before ++ s :: (after ++ later) := by
        rw [hsteps, List.append_assoc, List.cons_append]
      apply FirstFault.step h hlater hbefore hs

/-! ### Requirements -/

/-- The requirements that a step adds to a restriction of an entity's rows, none without an
entity. -/
def added (entity : Except Error Entity) (s : Step) : List Requirement :=
  match entity with
  | .error _ => []
  | .ok e => s.requirements e

end WhereBuilder

end BoundSql
