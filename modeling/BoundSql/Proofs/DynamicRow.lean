import BoundSql.DynamicRow
import BoundSql.Json.Record
import BoundSql.Proofs.Json.Fields

/-!
# Rows as objects

The object of a row has under each name the last of the row's values with the
name, while a column is looked up as the first whose name is the same but for
letter case. The two agree on the columns of a row that has no name twice, in any
spelling.
-/

namespace BoundSql

namespace DynamicRow

/-- The last value of a row with a name. -/
def last? (r : DynamicRow) (name : String) : Option Value :=
  Fields.last? name r.columns

/-- The object of a row has under each name the last value with the name. -/
theorem find?_toJson (r : DynamicRow) (name : String) :
  (r.toJson.asFields?.bind fun fields => Fields.find? fields name)
    = (r.last? name).map Value.toJson
  := by
  show Fields.find? (Fields.ofList (r.columns.map fun p => (p.1, p.2.toJson))) name = _
  rw [Fields.find?_ofList, Fields.last?_map, last?]

/-! ### Looking up a column -/

open BoundSql.Text

variable {r : DynamicRow} {name : String} {v : Value}

/-- What the object of a row has under a name. -/
def shown? (r : DynamicRow) (name : String) : Option Json :=
  r.toJson.asFields?.bind fun fields => Fields.find? fields name

/-- The value of the first column whose name is the same but for letter case. -/
def IsFirstNamed (r : DynamicRow) (name : String) (v : Value) : Prop :=
  ∃ before spelling after, r.columns = before ++ (spelling, v) :: after
    ∧ sameName spelling name = true ∧ ∀ p ∈ before, sameName p.1 name = false

theorem get?_eq_some_iff :
  r.get? name = some v ↔ r.IsFirstNamed name v
  := by
  rw [get?, Option.map_eq_some_iff]
  constructor
  · rintro ⟨⟨spelling, v⟩, hfind, rfl⟩
    obtain ⟨hsame, before, after, hcolumns, hbefore⟩ := List.find?_eq_some_iff_append.mp hfind
    use before, spelling, after, hcolumns, hsame
    simpa using hbefore
  · rintro ⟨before, spelling, after, hcolumns, hsame, hbefore⟩
    use (spelling, v)
    rw [List.find?_eq_some_iff_append]
    use ⟨hsame, before, after, hcolumns, by simpa using hbefore⟩

/-- A column of a row is found under its name. -/
theorem exists_isFirstNamed (h : (name, v) ∈ r.columns) :
  ∃ w, r.IsFirstNamed name w
  := by
  have hfind : (r.columns.find? fun p => sameName p.1 name).isSome = true := by
    rw [List.find?_isSome]
    use (name, v), h
    apply sameName_refl
  obtain ⟨p, hp⟩ := Option.isSome_iff_exists.mp hfind
  use p.2
  rw [← get?_eq_some_iff, get?, hp]
  rfl

/-- The object of a row has a value under the name of a column, and it is that of a column with
exactly the name. -/
theorem exists_shown? (h : (name, v) ∈ r.columns) :
  ∃ w, (name, w) ∈ r.columns ∧ r.shown? name = some w.toJson
  := by
  have hfind : (r.columns.reverse.find? fun p => p.1 == name).isSome = true := by
    rw [List.find?_isSome]
    use (name, v), List.mem_reverse.mpr h
    apply beq_self_eq_true
  obtain ⟨⟨key, w⟩, hp⟩ := Option.isSome_iff_exists.mp hfind
  obtain rfl : key = name := by
    simpa using List.find?_some hp
  use w, List.mem_reverse.mp (List.mem_of_find?_eq_some hp)
  rw [shown?, find?_toJson, last?, Fields.last?, hp]
  rfl

/-- Under the name of a column, a row gives the value of the first column whose name is the same but
for letter case, and the object of the row has the value of a column with exactly the name. So the
two agree when all columns with exactly the name are rendered like that first column, and differ
when none is. -/
theorem views_of_mem (h : ∃ v, (name, v) ∈ r.columns) :
  ∃ v, r.IsFirstNamed name v ∧ r.get? name = some v
    ∧ (∃ w, (name, w) ∈ r.columns ∧ r.shown? name = some w.toJson)
    ∧ ((∀ w, (name, w) ∈ r.columns → w.toJson = v.toJson) →
      r.shown? name = (r.get? name).map Value.toJson)
    ∧ ((∀ w, (name, w) ∈ r.columns → w.toJson ≠ v.toJson) →
      r.shown? name ≠ (r.get? name).map Value.toJson)
  := by
  obtain ⟨u, hu⟩ := h
  obtain ⟨v, hfirst⟩ := exists_isFirstNamed hu
  obtain ⟨w, hw, hshown⟩ := exists_shown? hu
  have hget := get?_eq_some_iff.mpr hfirst
  use v, hfirst, hget, ⟨w, hw, hshown⟩
  rw [hshown, hget]
  constructor
  · intro hall
    rw [hall w hw]
    rfl
  · intro hnone heq
    apply hnone w hw (Option.some.inj heq)

/-- A row with a name in two spellings, as a join may have it. -/
def joinedRow : DynamicRow :=
  ⟨[("lot", .int 1), ("LOT", .int 2), ("qty", .int 4)]⟩

theorem isFirstNamed_joinedRow :
  joinedRow.IsFirstNamed "qty" (.int 4) ∧ joinedRow.IsFirstNamed "LOT" (.int 1)
  := by
  constructor
  · use [("lot", .int 1), ("LOT", .int 2)], "qty", [], rfl, by decide +kernel
    simp only [List.forall_mem_cons]
    decide +kernel
  · use [], "lot", [("LOT", .int 2), ("qty", .int 4)], rfl, by decide +kernel
    simp

/-- Two spellings of a name come first, and the views of a third column agree. -/
theorem views_of_mem_joinedRow :
  (∃ v, ("qty", v) ∈ joinedRow.columns)
    ∧ joinedRow.shown? "qty" = (joinedRow.get? "qty").map Value.toJson
  := by
  have hmem : ∃ v, ("qty", v) ∈ joinedRow.columns := by
    use .int 4
    simp [joinedRow]
  obtain ⟨v, -, hget, -, hagree, -⟩ := views_of_mem hmem
  rw [get?_eq_some_iff.mpr isFirstNamed_joinedRow.1] at hget
  obtain rfl := Option.some.inj hget
  use hmem
  apply hagree
  intro w hw
  obtain rfl : w = .int 4 := by simpa [joinedRow] using hw
  rfl

/-- The second spelling is looked up as the first, while the object has a value under either. -/
theorem not_views_agree :
  ¬ ∀ (r : DynamicRow) (name : String) (v : Value), (name, v) ∈ r.columns →
    r.shown? name = (r.get? name).map Value.toJson
  := by
  intro h
  have hmem : ("LOT", Value.int 2) ∈ joinedRow.columns := by
    simp [joinedRow]
  have hviews := h joinedRow "LOT" (.int 2) hmem
  obtain ⟨w, hw, hshown⟩ := exists_shown? hmem
  obtain rfl : w = .int 2 := by simpa [joinedRow] using hw
  rw [hshown, get?_eq_some_iff.mpr isFirstNamed_joinedRow.2] at hviews
  have hnumber := Json.number.inj (Option.some.inj hviews)
  revert hnumber
  decide

end DynamicRow

end BoundSql
