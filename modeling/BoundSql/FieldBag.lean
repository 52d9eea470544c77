import BoundSql.Error

/-!
# Field bags

A bag of fields keeps one value per column, in the order in which the columns
were first set and in their first spelling. Letter case does not tell columns
apart.
-/

namespace BoundSql

open BoundSql.Text

/-- Columns and values in the order of first setting. -/
structure FieldBag where
  fields : List (String × Value)
  distinct : fields.Pairwise fun p q => sameName p.1 q.1 = false
  deriving Repr

namespace FieldBag

/-- The bag without fields. -/
def empty : FieldBag := ⟨[], List.Pairwise.nil⟩

/-- The fields with the value of a column replaced, or with the column added at the end. -/
def setField (column : String) (value : Value) : List (String × Value) → List (String × Value)
  | [] => [(column, value)]
  | (name, v) :: r =>
    if sameName name column then (name, value) :: r else (name, v) :: setField column value r

theorem fst_of_mem_setField {column : String} {value : Value} {fields : List (String × Value)}
    {p : String × Value} (h : p ∈ setField column value fields) :
  p.1 = column ∨ ∃ q ∈ fields, q.1 = p.1
  := by
  induction fields with
  | nil =>
      obtain rfl := List.mem_singleton.mp h
      left
      rfl
  | cons q r ih =>
      simp only [setField] at h
      split at h
      · right
        rcases List.mem_cons.mp h with rfl | h
        · refine ⟨q, List.mem_cons_self, rfl⟩
        · refine ⟨_, List.mem_cons_of_mem q h, rfl⟩
      · rcases List.mem_cons.mp h with rfl | h
        · right
          refine ⟨_, List.mem_cons_self, rfl⟩
        · rcases ih h with hcolumn | ⟨x, hx, hname⟩
          · left
            apply hcolumn
          · right
            refine ⟨x, List.mem_cons_of_mem q hx, hname⟩

theorem distinct_setField (column : String) (value : Value) {fields : List (String × Value)}
    (h : fields.Pairwise fun p q => sameName p.1 q.1 = false) :
  (setField column value fields).Pairwise fun p q => sameName p.1 q.1 = false
  := by
  induction fields with
  | nil => simp [setField]
  | cons q r ih =>
      obtain ⟨hq, hr⟩ := List.pairwise_cons.mp h
      simp only [setField]
      split
      · apply List.Pairwise.cons _ hr
        intro p hp
        apply hq p hp
      · next hne =>
          apply List.Pairwise.cons _ (ih hr)
          intro p hp
          rcases fst_of_mem_setField hp with hcolumn | ⟨x, hx, hname⟩
          · simpa [hcolumn] using hne
          · rw [← hname]
            apply hq x hx

/-- The bag with a column set. -/
def set (b : FieldBag) (column : String) (value : Value) : FieldBag :=
  ⟨setField column value b.fields, distinct_setField column value b.distinct⟩

/-- The bag of pairs set in order. -/
def ofPairs (pairs : List (String × Value)) : FieldBag :=
  pairs.foldl (fun b p => b.set p.1 p.2) empty

/-- Whether the bag has no fields. -/
def isEmpty (b : FieldBag) : Bool :=
  b.fields.isEmpty

/-- Columns and values with each name checked; the first bad name is the error. -/
def checkedFields : List (String × Value) → Except Error (List (Ident × Value))
  | [] => .ok []
  | (name, v) :: r => do
    let column ← Ident.column name
    let rest ← checkedFields r
    pure ((column, v) :: rest)

/-- The bag's columns and values with each name checked. -/
def checked (b : FieldBag) : Except Error (List (Ident × Value)) :=
  checkedFields b.fields

end FieldBag

end BoundSql
