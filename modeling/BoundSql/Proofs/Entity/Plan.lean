import BoundSql.Entity.Update
import BoundSql.Proofs.Statement.Built
import Mathlib.Data.List.Nodup

/-!
# Plans of updates

A plan assigns values to fields of the entity that may be assigned, to at least
one and to none of them twice. The stamp of an audited update owns the columns
of the editor, which are not in its plan. An update with a token is planned for
an entity with a token, and an update without one for an entity without one.
-/

namespace BoundSql

/-- The field that a name addresses is a field of the entity. -/
theorem Entity.mem_of_field? {e : Entity} {name : String} {f : Field} (h : e.field? name = some f) :
  f ∈ e.fields
  := by
  obtain ⟨i, _, hi⟩ := Option.bind_eq_some_iff.mp h
  apply List.mem_of_getElem? hi

namespace Update

/-- Fields that may be assigned, none of them twice. -/
structure Assignable (e : Entity) (fields : List Field) : Prop where
  field : ∀ f ∈ fields, f ∈ e.fields ∧ isAssignable f = true
  nodup : fields.Nodup

/-- What a plan says of the assignments of an update. -/
structure Planned (u : Update) (e : Entity) (sets : List (Field × Value)) : Prop where
  assignable : Assignable e (sets.map Prod.fst)
  nonempty : sets ≠ []
  audited : u.audits = true → e.audited = true
  unstamped : u.audits = true → ∀ f ∈ sets.map Prod.fst, Audit.isEditor f.column = false
  token : u.token.isSome = e.token.isSome

variable {e : Entity} {sets : List (Field × Value)}

/-- A field that is assigned once more keeps its place. -/
theorem map_fst_assign_of_mem {f : Field} {v : Value} (h : f ∈ sets.map Prod.fst) :
  (assign f v sets).map Prod.fst = sets.map Prod.fst
  := by
  induction sets with
  | nil => contradiction
  | cons p sets ih =>
      rw [assign]
      split
      · rfl
      · next hne =>
          rcases List.mem_cons.mp h with rfl | h
          · contradiction
          · rw [List.map_cons, List.map_cons, ih h]

/-- A field that is assigned for the first time comes last. -/
theorem map_fst_assign_of_not_mem {f : Field} {v : Value} (h : f ∉ sets.map Prod.fst) :
  (assign f v sets).map Prod.fst = sets.map Prod.fst ++ [f]
  := by
  induction sets with
  | nil => rfl
  | cons p sets ih =>
      rw [List.map_cons, List.mem_cons, not_or] at h
      rw [assign, if_neg (Ne.symm h.1), List.map_cons, List.map_cons, ih h.2, List.cons_append]

theorem Assignable.assign {f : Field} {v : Value} (h : Assignable e (sets.map Prod.fst))
    (hmem : f ∈ e.fields) (hassignable : isAssignable f = true) :
  Assignable e ((assign f v sets).map Prod.fst)
  := by
  by_cases hf : f ∈ sets.map Prod.fst
  · rw [map_fst_assign_of_mem hf]
    apply h
  · rw [map_fst_assign_of_not_mem hf]
    constructor
    · rw [List.forall_mem_append]
      use h.field
      simp [hmem, hassignable]
    · rw [List.nodup_append]
      use h.nodup, List.nodup_singleton f
      rintro g hg f' hf' rfl
      rw [List.mem_singleton] at hf'
      subst hf'
      contradiction

theorem assignable_of_assignments {includesNulls : Bool} {before : List (Field × Value)}
    {named : List (String × Value)} (hbefore : Assignable e (before.map Prod.fst))
    (h : assignments e includesNulls before named = .ok sets) :
  Assignable e (sets.map Prod.fst)
  := by
  induction named generalizing before with
  | nil =>
      obtain rfl := Except.ok.inj h
      apply hbefore
  | cons p named ih =>
      obtain ⟨name, v⟩ := p
      rw [assignments] at h
      split at h
      · contradiction
      · next f hf =>
          split at h
          · contradiction
          · next hassignable =>
              split at h
              · apply ih hbefore h
              · apply ih (hbefore.assign (Entity.mem_of_field? hf) _) h
                simpa using hassignable

/-- The assignments that an update keeps for its plan. -/
def kept (u : Update) (all : List (Field × Value)) : List (Field × Value) :=
  if u.audits then all.filter fun (f, _) => !Audit.isEditor f.column else all

theorem Assignable.kept {u : Update} {all : List (Field × Value)}
    (h : Assignable e (all.map Prod.fst)) :
  Assignable e ((u.kept all).map Prod.fst)
  := by
  have hsublist : ((u.kept all).map Prod.fst).Sublist (all.map Prod.fst) := by
    apply List.Sublist.map
    rw [Update.kept]
    split
    · apply List.filter_sublist
    · apply List.Sublist.refl
  constructor
  · intro f hf
    apply h.field f (hsublist.subset hf)
  · apply h.nodup.sublist hsublist

/-- What is planned for assignments, or why nothing is. -/
theorem plan_of_assignments {u : Update} {all : List (Field × Value)}
    (h : assignments e u.includesNulls [] u.sets.fields = .ok all) :
  u.plan e
    = if (u.audits && !e.audited) = true then .error (.badEntity e.name .noAudit)
      else if (u.kept all).isEmpty = true then .error .nothingToUpdate
      else match e.token, u.token with
        | some _, none => .error (.missingToken e.name)
        | none, some _ => .error (.badEntity e.name .noToken)
        | _, _ => .ok ⟨e, u.kept all⟩
  := by
  rw [plan, h]
  dsimp only [bind, Except.bind]
  split
  · rfl
  · change (if (u.kept all).isEmpty = true then _ else _) = _
    split
    · rfl
    · rfl

/-- A plan is made of the assignments that are kept, if there are any, for an entity that is audited
when the update is and that has a token exactly when the update has one. -/
theorem exists_of_plan {u : Update} {plan : UpdatePlan} (h : u.plan e = .ok plan) :
  ∃ all, assignments e u.includesNulls [] u.sets.fields = .ok all ∧ plan = ⟨e, u.kept all⟩
    ∧ (u.audits = true → e.audited = true) ∧ u.kept all ≠ [] ∧ u.token.isSome = e.token.isSome
  := by
  obtain ⟨all, hall, -⟩ := bind_eq_ok.mp h
  use all, hall
  rw [plan_of_assignments hall] at h
  split at h
  · contradiction
  · next haudited =>
      split at h
      · contradiction
      · next hkept =>
          have haudits : u.audits = true → e.audited = true := by simpa using haudited
          have hne : u.kept all ≠ [] := by simpa using hkept
          cases htoken : e.token with
          | none =>
              cases hgiven : u.token with
              | none =>
                  rw [htoken, hgiven] at h
                  exact ⟨(Except.ok.inj h).symm, haudits, hne, rfl⟩
              | some v =>
                  rw [htoken, hgiven] at h
                  contradiction
          | some f =>
              cases hgiven : u.token with
              | none =>
                  rw [htoken, hgiven] at h
                  contradiction
              | some v =>
                  rw [htoken, hgiven] at h
                  exact ⟨(Except.ok.inj h).symm, haudits, hne, rfl⟩

theorem planned_of_plan {u : Update} {plan : UpdatePlan} (h : u.plan e = .ok plan) :
  plan.entity = e ∧ u.Planned e plan.assignments
  := by
  obtain ⟨all, hall, rfl, haudited, hne, htoken⟩ := exists_of_plan h
  have hassignable := assignable_of_assignments ⟨by simp, by simp⟩ hall
  refine ⟨rfl, hassignable.kept, hne, haudited, ?_, htoken⟩
  · intro haudits f hf
    rw [Update.kept, if_pos haudits, List.mem_map] at hf
    obtain ⟨p, hp, rfl⟩ := hf
    simpa using (List.mem_filter.mp hp).2

/-- A planned update compiles to what its plan is rendered as. -/
theorem compile_of_plan {u : Update} {plan : UpdatePlan} (h : u.plan e = .ok plan)
    (stamp : Option Stamp) :
  u.compile e stamp = u.render plan stamp
  := by
  rw [compile, h]
  rfl

/-- A plan is rendered, under a stamp if the update is audited. -/
theorem exists_render {u : Update} {stamp : Option Stamp} (plan : UpdatePlan)
    (hstamped : u.audits = true → stamp.isSome = true) :
  ∃ s, u.render plan stamp = .ok s
  := by
  unfold render
  cases haudits : u.audits with
  | false => exact ⟨_, rfl⟩
  | true =>
      obtain ⟨t, rfl⟩ := Option.isSome_iff_exists.mp (hstamped haudits)
      exact ⟨_, rfl⟩

end Update

end BoundSql
