import BoundSql.Proofs.Entity.Contention

/-!
# Soft deletions

Every compiled update moves the token of its entity on, but no deletion that marks
rows does. Where a deletion does not assign the token either, an update affects a
row after deletions as if there had been none: exactly when no update has affected
the row since the token was read, and the update suits the row.
-/

namespace BoundSql

variable (db : Database) {e : Entity} {f : Field} {n : Int64} {s : Statement}

theorem Update.bump_mem_of_compile {u : Update} {stamp : Option Stamp} (hf : e.token = some f)
    (h : u.compile e stamp = .ok s) :
  ∃ m, s.readModification? = some m ∧ .bump f.column ∈ m.sets
  := by
  obtain ⟨plan, hplan, hread⟩ := readModification?_of_compile h
  obtain ⟨rfl, -⟩ := planned_of_plan hplan
  use u.modification plan stamp, hread
  simp [modification, hf]

/-- A deletion assigns values only. -/
theorem Entity.bump_not_mem_deletion (e : Entity) (rows : Restriction) (stamp : Stamp)
    (column : Ident) :
  .bump column ∉ (e.deletion rows stamp).sets
  := by
  simp [deletion, Audit.edits, Assignment.ofPair, Assignment.bump]

theorem Entity.assigned_of_softDelete {rows : Restriction} {stamp : Stamp}
    (h : e.softDelete rows stamp = .ok s) (column : Ident) :
  ∃ m, s.readModification? = some m ∧ .bump column ∉ m.sets
    ∧ (m.Assigns column ↔ ∃ c ∈ Audit.marks, c.isNamed column.text = true)
  := by
  use e.deletion rows stamp, readModification?_of_softDelete h, bump_not_mem_deletion e rows stamp _
  apply assigns_deletion_iff

namespace World

/-- Updates move the token on and deletions do not. Where they do not assign it either, an update
affects the row exactly when no other has affected it since the token was read, and the update suits
the row. -/
theorem affects_after_deletions_iff {row : StoredRow} (hf : e.token = some f)
    (hn : row.get f.column = .int n) :
  (∀ u stamp s, Update.compile u e stamp = .ok s →
      ∃ m, s.readModification? = some m ∧ .bump f.column ∈ m.sets)
    ∧ (∀ rows stamp s, e.softDelete rows stamp = .ok s →
      ∃ m, s.readModification? = some m ∧ .bump f.column ∉ m.sets
        ∧ (m.Assigns f.column ↔ ∃ c ∈ Audit.marks, c.isNamed f.column.text = true))
    ∧ ((∀ c ∈ Audit.marks, c.isNamed f.column.text = false) →
      ∀ before client between u stamp, (∀ m ∈ between, m ≠ .read client) →
        (((start row).after db e (before ++ .read client :: between)).affects db e
            (.update client u stamp) = true
          ↔ ((start row).after db e (before ++ [.read client])).spent db e between = []
            ∧ ((start row).after db e (before ++ .read client :: between)).suits db e u stamp
              = true))
  := by
  refine ⟨fun u stamp s h => Update.bump_mem_of_compile hf h,
    fun rows stamp s h => Entity.assigned_of_softDelete h f.column, ?_⟩
  intro hfree before client between u stamp hreads
  have hspares : ∀ m : Move, m.Spares f.column := fun _ _ => hfree
  apply (affects_after_read_iff db hf hn (fun m _ => hspares m) (fun m _ => hspares m) hreads u
    stamp).2

/-- The lot with the number 9. -/
def ninth : Restriction :=
  ⟨[⟨lotKey.column, .compare .equal (.int 9)⟩], List.cons_ne_nil _ _⟩

/-- The lot is marked as deleted. -/
def discard : Move :=
  .softDelete ninth editing

theorem softDelete_ninth :
  lot.softDelete ninth editing = .ok (lot.deletion ninth editing).fragment.build
  := by rfl

theorem affect?_discard (w : World) :
  w.affect? integers lot discard = (lot.deletion ninth editing).affect? integers w.row
  := Entity.mark?_eq softDelete_ninth w.row

/-- A client has read the lot at version 1. -/
def oneRead : World :=
  (start lotRow).move integers lot (.read 1)

/-- The lot has been marked as deleted since. -/
def discarded : World :=
  oneRead.move integers lot discard

theorem affects_oneRead :
  oneRead.affects integers lot discard = true
  := by
  rw [affects, affect?_discard]
  decide +kernel

/-- The update of the client affects the lot all the same. -/
theorem affects_discarded :
  discarded.affects integers lot (relabel 1) = true
  := by
  rw [affects, affect?_relabel rfl, discarded, move, affect?_discard]
  decide +kernel

/-- No update has affected the lot since the client has read it, and the update suits the lot. -/
theorem affects_after_deletions_iff_discard :
  oneRead.spent integers lot [discard] = []
    ∧ discarded.suits integers lot relabeling (some editing) = true
  := by
  have htoken : lot.token = some lotVersion := by rfl
  have hversion : lotRow.get lotVersion.column = .int 1 := by rfl
  have hfree : ∀ c ∈ Audit.marks, c.isNamed lotVersion.column.text = false := by decide +kernel
  obtain ⟨-, -, hiff⟩ := affects_after_deletions_iff integers htoken hversion
  apply (hiff hfree [] 1 [discard] _ _ (by simp [discard])).mp affects_discarded

/-- A deletion does not move the version of a lot on, and the update of a client that has read the
lot before affects it. -/
theorem not_bump_of_softDelete :
  (¬ ∀ (e : Entity) (f : Field) (rows : Restriction) (stamp : Stamp) (s : Statement),
      e.token = some f → e.softDelete rows stamp = .ok s →
      ∃ m, s.readModification? = some m ∧ .bump f.column ∈ m.sets)
    ∧ ¬ ∀ (db : Database) (e : Entity) (f : Field) (row : StoredRow) (n : Int64) (client : Nat)
      (rows : Restriction) (stamp : Stamp) (u : Update) (edit : Option Stamp),
      e.token = some f → row.get f.column = .int n →
      ((start row).move db e (.read client)).affects db e (.softDelete rows stamp) = true →
      (((start row).move db e (.read client)).move db e (.softDelete rows stamp)).affects db e
        (.update client u edit) = false
  := by
  constructor
  · intro h
    obtain ⟨m, hread, hbump⟩ := h lot lotVersion ninth editing _ rfl softDelete_ninth
    rw [Entity.readModification?_of_softDelete softDelete_ninth] at hread
    obtain rfl := Option.some.inj hread
    apply Entity.bump_not_mem_deletion _ _ _ _ hbump
  · intro h
    have hlate := h integers lot lotVersion lotRow 1 1 ninth editing relabeling (some editing) rfl
      rfl affects_oneRead
    have haffects := affects_discarded
    rw [discarded, oneRead, discard, relabel, hlate] at haffects
    contradiction

end World

end BoundSql
