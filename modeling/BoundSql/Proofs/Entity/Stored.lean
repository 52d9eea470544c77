import BoundSql.Proofs.Entity.Columns
import BoundSql.Proofs.Result
import Mathlib.Logic.Function.Basic

/-!
# Stored rows

A database keeps a value for each column of a row. A modification affects a row
of its table when it assigns no column twice, the row satisfies its clauses, and
everything that is assigned has a value in the row as it was. A compiled update
affects only a row whose token it carries, and moves the token on by one. A
deletion that marks rows leaves the other columns as they were.
-/

namespace BoundSql

open BoundSql.Text

/-- A row as it is stored: its table, and a value for the name of each column in lower case. -/
structure StoredRow where
  table : Ident
  cells : String → Value

namespace StoredRow

/-- The value of a column. -/
def get (row : StoredRow) (column : Ident) : Value :=
  row.cells (lower column.text)

/-- The row with the value of a column replaced. -/
def put (row : StoredRow) (column : Ident) (v : Value) : StoredRow :=
  { row with cells := Function.update row.cells (lower column.text) v }

theorem get_put_of_isNamed (row : StoredRow) {column other : Ident} (v : Value)
    (h : column.isNamed other.text = true) :
  (row.put column v).get other = v
  := by
  rw [Ident.isNamed, sameName_iff] at h
  rw [get, put, ← h]
  apply Function.update_self

theorem get_put_of_not_isNamed (row : StoredRow) {column other : Ident} (v : Value)
    (h : column.isNamed other.text = false) :
  (row.put column v).get other = row.get other
  := by
  rw [Ident.isNamed, Bool.eq_false_iff, ne_eq, sameName_iff] at h
  rw [get, put]
  apply Function.update_of_ne (Ne.symm h)

end StoredRow

/-- What a database makes of clauses and of the number above a value. An integer equals itself
alone, and the number above it is its successor, if there is one. -/
structure Database where
  holds : StoredRow → Clause → Bool
  above? : Value → Option Value
  holds_equal : ∀ (row : StoredRow) (column : Ident) (m n : Int64), row.get column = .int m →
    (holds row (.compare column .equal (.int n)) = true ↔ m = n)
  above?_int : ∀ (n : Int64) (v : Value), above? (.int n) = some v →
    ∃ k : Int64, v = .int k ∧ k.toInt = n.toInt + 1

variable (db : Database)

/-- The value of what is assigned in a row, if it has one. -/
def Assigned.value? (row : StoredRow) : Assigned → Option Value
  | .value v => some v
  | .above column => db.above? (row.get column)

/-- A row with assignments stored one after the other, each with its value in the row as it was. -/
def Assignment.storeAll? (old : StoredRow) : List Assignment → StoredRow → Option StoredRow
  | [], row => some row
  | a :: sets, row => do
    let v ← a.assigned.value? db old
    storeAll? old sets (row.put a.column v)

/-- The row that a modification makes of a row, if it affects it. -/
def Modification.affect? (m : Modification) (row : StoredRow) : Option StoredRow :=
  if m.table.isNamed row.table.text = true ∧ m.AssignsOnce ∧ ∀ c ∈ m.clauses, db.holds row c = true
  then Assignment.storeAll? db row m.sets row
  else none

/-- The row that a statement makes of a row, if it affects it. -/
def Statement.affect? (s : Statement) (row : StoredRow) : Option StoredRow :=
  s.readModification?.bind (·.affect? db row)

variable {db}

namespace Assignment

variable {old row row' : StoredRow} {sets : List Assignment} {column : Ident}

/-- Columns that are not assigned keep their values. -/
theorem get_of_forall_not_isNamed (h : storeAll? db old sets row = some row')
    (hfree : ∀ a ∈ sets, a.column.isNamed column.text = false) :
  row'.get column = row.get column
  := by
  induction sets generalizing row with
  | nil =>
      obtain rfl := Option.some.inj h
      rfl
  | cons a sets ih =>
      obtain ⟨v, -, hrest⟩ := Option.bind_eq_some_iff.mp h
      rw [List.forall_mem_cons] at hfree
      rw [ih hrest hfree.2, StoredRow.get_put_of_not_isNamed row v hfree.1]

/-- A column that is assigned once has the value that it is assigned. -/
theorem get_of_mem (h : storeAll? db old sets row = some row')
    (hdistinct : sets.Pairwise fun a b => a.column.isNamed b.column.text = false)
    {a : Assignment} (ha : a ∈ sets) :
  a.assigned.value? db old = some (row'.get a.column)
  := by
  induction sets generalizing row with
  | nil => contradiction
  | cons b sets ih =>
      obtain ⟨v, hv, hrest⟩ := Option.bind_eq_some_iff.mp h
      obtain ⟨hb, hdistinct⟩ := List.pairwise_cons.mp hdistinct
      rcases List.mem_cons.mp ha with rfl | ha
      · have hfree : ∀ b ∈ sets, b.column.isNamed a.column.text = false := by
          intro b hb'
          rw [Ident.isNamed_comm]
          apply hb b hb'
        rw [get_of_forall_not_isNamed hrest hfree,
          StoredRow.get_put_of_isNamed row v (sameName_refl _), hv]
      · apply ih hrest hdistinct ha

end Assignment

namespace Modification

variable {m : Modification} {row row' : StoredRow}

theorem affect?_eq_some_iff :
  m.affect? db row = some row' ↔ m.table.isNamed row.table.text = true ∧ m.AssignsOnce
    ∧ (∀ c ∈ m.clauses, db.holds row c = true) ∧ Assignment.storeAll? db row m.sets row = some row'
  := by
  rw [affect?, Option.ite_none_right_eq_some, and_assoc, and_assoc]

/-- What is assigned to a column is its value afterwards. -/
theorem value?_of_affect? (h : m.affect? db row = some row') {a : Assignment} (ha : a ∈ m.sets) :
  a.assigned.value? db row = some (row'.get a.column)
  := by
  obtain ⟨-, honce, -, hstore⟩ := affect?_eq_some_iff.mp h
  apply Assignment.get_of_mem hstore (List.pairwise_map.mp honce) ha

theorem get_of_affect? (h : m.affect? db row = some row') {column : Ident}
    (hfree : ¬ m.Assigns column) :
  row'.get column = row.get column
  := by
  obtain ⟨-, -, -, hstore⟩ := affect?_eq_some_iff.mp h
  apply Assignment.get_of_forall_not_isNamed hstore
  intro a ha
  rw [Bool.eq_false_iff]
  intro hnamed
  apply hfree ⟨a.column, List.mem_map_of_mem ha, hnamed⟩

end Modification

/-! ### Updates and deletions -/

variable (db) in
/-- The row that an update makes of a row, if it compiles and affects it. -/
def Update.affect? (u : Update) (e : Entity) (stamp : Option Stamp) (row : StoredRow) :
    Option StoredRow :=
  (u.compile e stamp).toOption.bind (·.affect? db row)

variable (db) in
/-- The row that a deletion makes of a row, if it compiles and affects it. -/
def Entity.mark? (e : Entity) (rows : Restriction) (stamp : Stamp) (row : StoredRow) :
    Option StoredRow :=
  (e.softDelete rows stamp).toOption.bind (·.affect? db row)

/-- The columns that a deletion assigns. -/
def Audit.marks : List Ident :=
  isDeleted :: editors

variable {u : Update} {e : Entity} {stamp : Option Stamp} {s : Statement} {row row' : StoredRow}

/-- A compiled update makes of a row what its modification does. -/
theorem Update.affect?_eq {plan : UpdatePlan} (h : u.compile e stamp = .ok s)
    (hplan : u.plan e = .ok plan) (row : StoredRow) :
  u.affect? db e stamp row = (u.modification plan stamp).affect? db row
  := by
  obtain ⟨plan', hplan', hread⟩ := readModification?_of_compile h
  obtain rfl := Except.ok.inj (hplan.symm.trans hplan')
  rw [affect?, h, Except.toOption, Option.bind_some, Statement.affect?, hread, Option.bind_some]

/-- An update with an integer as its token affects only a row whose token that is, and moves the
token on by one. -/
theorem Update.token_of_affect? {f : Field} {n : Int64} (h : u.affect? db e stamp row = some row')
    (hf : e.token = some f) (hn : row.get f.column = .int n)
    (hinteger : ∀ v, u.token = some v → ∃ m : Int64, v = .int m) :
  u.token = some (.int n) ∧ ∃ k : Int64, row'.get f.column = .int k ∧ k.toInt = n.toInt + 1
  := by
  obtain ⟨s, hcompile, -⟩ := toOption_bind_eq_some.mp h
  obtain ⟨plan, hplan, -⟩ := readModification?_of_compile hcompile
  obtain ⟨rfl, hplanned⟩ := planned_of_plan hplan
  rw [affect?_eq hcompile hplan] at h
  obtain ⟨v, hv⟩ : ∃ v, u.token = some v := by
    rw [← Option.isSome_iff_exists, hplanned.token, hf, Option.isSome_some]
  obtain ⟨m, rfl⟩ := hinteger v hv
  constructor
  · have hcheck : .compare f.column .equal (.int m) ∈ (u.modification plan stamp).clauses := by
      simp [modification, check, hf, hv]
    obtain ⟨-, -, hholds, -⟩ := Modification.affect?_eq_some_iff.mp h
    rw [hv, (db.holds_equal row f.column n m hn).mp (hholds _ hcheck)]
  · have hbump : Assignment.bump f.column ∈ (u.modification plan stamp).sets := by
      simp [modification, hf]
    have habove := Modification.value?_of_affect? h hbump
    rw [Assignment.bump, Assigned.value?, hn] at habove
    apply db.above?_int n _ habove

/-- A compiled deletion makes of a row what its modification does. -/
theorem Entity.mark?_eq {rows : Restriction} {stamp : Stamp} (h : e.softDelete rows stamp = .ok s)
    (row : StoredRow) :
  e.mark? db rows stamp row = (e.deletion rows stamp).affect? db row
  := by
  rw [mark?, h, Except.toOption, Option.bind_some, Statement.affect?,
    readModification?_of_softDelete h, Option.bind_some]

theorem Entity.assigns_deletion_iff (e : Entity) (rows : Restriction) (stamp : Stamp)
    (column : Ident) :
  (e.deletion rows stamp).Assigns column ↔ ∃ c ∈ Audit.marks, c.isNamed column.text = true
  := Iff.rfl

/-- A deletion leaves the columns that it does not assign as they were. -/
theorem Entity.get_of_mark? {rows : Restriction} {stamp : Stamp} {column : Ident}
    (h : e.mark? db rows stamp row = some row')
    (hfree : ∀ c ∈ Audit.marks, c.isNamed column.text = false) :
  row'.get column = row.get column
  := by
  obtain ⟨s, hdelete, -⟩ := toOption_bind_eq_some.mp h
  rw [mark?_eq hdelete] at h
  apply Modification.get_of_affect? h
  rw [assigns_deletion_iff]
  rintro ⟨c, hc, hnamed⟩
  rw [hfree c hc] at hnamed
  contradiction

end BoundSql
