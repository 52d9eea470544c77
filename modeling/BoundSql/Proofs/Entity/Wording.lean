import BoundSql.Entity.Update
import BoundSql.Proofs.AdHoc
import BoundSql.Proofs.Entity.Requirement
import BoundSql.Proofs.Statement.Built

/-!
# Wordings of statements on entities

The statements on entities are legible: insertions of rows, selections and
deletions of the rows of a restriction, and updates. A restriction opens like a
name, so a blank stands in front of it.
-/

namespace BoundSql

open Fragment

theorem Restriction.legible_fragment (r : Restriction) :
  r.fragment.Legible
  := by
  rw [Restriction.fragment_eq]
  apply legible_text_append (by decide) (Clause.legible_conjunction r.clauses)

namespace Entity

variable {e : Entity} {values : List Value} {stamp : Option Stamp} {s : Statement}

/-! ### Insertions -/

/-- The insertion of a row is that of its fields. -/
theorem insertFragment_of_ok {f : Fragment} (h : e.insertFragment values stamp = .ok f) :
  f = AdHoc.insertFragment e.table (e.insertedFields values stamp)
  := by
  rw [insertFragment] at h
  split at h
  · contradiction
  · obtain rfl := Except.ok.inj h
    rfl

theorem legible_of_insert (h : e.insert values stamp = .ok s) :
  s.Legible
  := by
  rw [insert] at h
  obtain ⟨f, hinsert, ⟨⟩⟩ := bind_eq_ok.mp h
  obtain rfl := insertFragment_of_ok hinsert
  apply (AdHoc.legible_insertFragment e.table _).build

theorem legible_of_insertReturningKey (h : e.insertReturningKey values stamp = .ok s) :
  s.Legible
  := by
  rw [insertReturningKey] at h
  obtain ⟨f, hinsert, ⟨⟩⟩ := bind_eq_ok.mp h
  obtain rfl := insertFragment_of_ok hinsert
  apply (AdHoc.legible_insertFragment_returning e.table _ e.key.column).build

/-! ### Selections -/

theorem legible_of_selected {f : Field} {column : Fragment} (h : selected f = .ok column) :
  column.Legible
  := by
  rw [selected] at h
  obtain ⟨property, _, ⟨⟩⟩ := bind_eq_ok.mp h
  rw [append_assoc]
  apply legible_ident_append
  apply legible_text_append (by decide) (legible_ident property)

theorem legible_of_selectedList {fields : List Field} {columns : List Fragment}
    (h : selectedList fields = .ok columns) :
  ∀ column ∈ columns, column.Legible
  := by
  induction fields generalizing columns with
  | nil =>
      obtain rfl := Except.ok.inj h
      simp
  | cons f fields ih =>
      rw [selectedList] at h
      obtain ⟨first, hfirst, h⟩ := bind_eq_ok.mp h
      obtain ⟨rest, hrest, ⟨⟩⟩ := bind_eq_ok.mp h
      apply List.forall_mem_cons.mpr ⟨legible_of_selected hfirst, ih hrest⟩

theorem legible_of_select {rows : Restriction} {first : Bool} (h : e.select rows first = .ok s) :
  s.Legible
  := by
  rw [select] at h
  obtain ⟨columns, hcolumns, ⟨⟩⟩ := bind_eq_ok.mp h
  have hlimit : (rows.fragment ++ if first then text " LIMIT 1" else empty).Legible := by
    apply rows.legible_fragment.append
    · split
      · apply legible_text (by decide)
      · apply legible_empty
    · split
      · apply opensApart_text (by decide)
      · apply opensApart_empty
  apply Legible.build
  simp only [append_assoc]
  apply legible_text_append (by decide)
  apply (legible_intercalate (by decide) (by decide) (legible_of_selectedList hcolumns)).append
  · apply legible_text_append (by decide)
    apply legible_ident_append
    apply legible_text_append (by decide) hlimit
  · apply opensApart_text_append (by decide)

/-! ### Deletions -/

theorem legible_of_softDelete {rows : Restriction} {stamp : Stamp}
    (h : e.softDelete rows stamp = .ok s) :
  s.Legible
  := by
  rw [softDelete] at h
  split at h
  · contradiction
  · next deleted _ =>
      obtain rfl := Except.ok.inj h
      have hsets : ∀ f ∈ [assignment deleted (.bool true),
          assignment Audit.updatedBy (.text stamp.user),
          assignment Audit.updatedAt (.timestampTz stamp.time)], f.Legible := by
        simp [assignment, AdHoc.legible_assignment]
      apply Legible.build
      simp only [append_assoc]
      apply legible_text_append (by decide)
      apply legible_ident_append
      apply legible_text_append (by decide)
      apply (legible_joined (by decide) (by decide) hsets).append
      · apply legible_text_append (by decide) rows.legible_fragment
      · apply opensApart_text_append (by decide)

end Entity

/-! ### Updates -/

namespace Update

theorem legible_stampFragments (stamp : Stamp) :
  ∀ f ∈ stampFragments stamp, f.Legible
  := by
  simp [stampFragments, Entity.assignment, AdHoc.legible_assignment]

theorem legible_bumpFragment (token : Field) :
  (bumpFragment token).Legible
  := by
  simp only [bumpFragment, append_assoc]
  apply legible_ident_append
  apply legible_text_append (by decide)
  apply legible_ident_append _ (legible_text (by decide))

/-- The update of a plan with the assignments of a stamp. -/
def rendering (u : Update) (plan : UpdatePlan) (edit : List Fragment) : Fragment :=
  text "UPDATE " ++ ident plan.entity.table ++ text " SET "
    ++ joined ", " (plan.assignments.map (fun (f, v) => Entity.assignment f.column v) ++ edit
      ++ plan.entity.token.toList.map bumpFragment)
    ++ text " WHERE " ++ Entity.assignment plan.entity.key.column u.id
    ++ match plan.entity.token, u.token with
    | some f, some v => text " AND " ++ Entity.assignment f.column v
    | _, _ => empty

/-- The value that picks a row is followed by nothing or by the check of the token. -/
theorem legible_rendering (u : Update) (plan : UpdatePlan) {edit : List Fragment}
    (hedit : ∀ f ∈ edit, f.Legible) :
  (u.rendering plan edit).Legible
  := by
  have hsets : ∀ f ∈ plan.assignments.map (fun (f, v) => Entity.assignment f.column v) ++ edit
      ++ plan.entity.token.toList.map bumpFragment, f.Legible := by
    simp only [List.forall_mem_append, List.forall_mem_map]
    use ⟨fun p _ => AdHoc.legible_assignment p.1.column p.2, hedit⟩
    intro token _
    apply legible_bumpFragment
  simp only [rendering, append_assoc]
  apply legible_text_append (by decide)
  apply legible_ident_append
  apply legible_text_append (by decide)
  apply (legible_joined (by decide) (by decide) hsets).append
  · apply legible_text_append (by decide)
    apply (AdHoc.legible_assignment plan.entity.key.column u.id).append
    · split
      · apply legible_text_append (by decide) (AdHoc.legible_assignment _ _)
      · apply legible_empty
    · split
      · apply opensApart_text_append (by decide)
      · apply opensApart_empty
  · apply opensApart_text_append (by decide)

variable {u : Update} {stamp : Option Stamp} {s : Statement}

theorem legible_of_render {plan : UpdatePlan} (h : u.render plan stamp = .ok s) :
  s.Legible
  := by
  unfold render at h
  split at h
  · obtain rfl := Except.ok.inj h
    apply (legible_rendering u plan (List.forall_mem_nil Legible)).build
  · next stamp _ =>
      obtain rfl := Except.ok.inj h
      apply (legible_rendering u plan (legible_stampFragments stamp)).build
  · contradiction

theorem legible_of_compile {e : Entity} (h : u.compile e stamp = .ok s) :
  s.Legible
  := by
  rw [compile] at h
  obtain ⟨plan, _, hrender⟩ := bind_eq_ok.mp h
  apply legible_of_render hrender

end Update

end BoundSql
