/-!
# Fields

The fields of an object are kept in increasing order of their keys, each key
once. Setting a field replaces the one with the same key.
-/

namespace BoundSql.Fields

/-- The fields with one set. -/
def insert {α : Type} (key : String) (value : α) : List (String × α) → List (String × α)
  | [] => [(key, value)]
  | (k, v) :: r =>
    if key < k then (key, value) :: (k, v) :: r
    else if key = k then (key, value) :: r
    else (k, v) :: insert key value r

/-- The fields of a list of pairs; of two pairs with one key the later counts. -/
def ofList {α : Type} (pairs : List (String × α)) : List (String × α) :=
  pairs.foldl (fun fields p => insert p.1 p.2 fields) []

/-- The value of a key. -/
def find? {α : Type} (fields : List (String × α)) (key : String) : Option α :=
  (fields.find? fun p => p.1 == key).map Prod.snd

/-- The fields without a key. -/
def erase {α : Type} (fields : List (String × α)) (key : String) : List (String × α) :=
  fields.filter fun p => p.1 != key

/-- Keys increase from field to field. -/
def Sorted {α : Type} (fields : List (String × α)) : Prop :=
  fields.Pairwise fun p q => p.1 < q.1

theorem mem_insert {α : Type} {key : String} {value : α} {fields : List (String × α)}
    {p : String × α} (h : p ∈ insert key value fields) :
  p = (key, value) ∨ p ∈ fields
  := by
  induction fields with
  | nil => simpa [insert] using h
  | cons q r ih =>
      simp only [insert] at h
      split at h
      · simpa using h
      · split at h
        · rcases List.mem_cons.mp h with rfl | h
          · left
            rfl
          · right
            apply List.mem_cons_of_mem q h
        · rcases List.mem_cons.mp h with rfl | h
          · right
            apply List.mem_cons_self
          · rcases ih h with rfl | h
            · left
              rfl
            · right
              apply List.mem_cons_of_mem q h

theorem sorted_insert {α : Type} (key : String) (value : α) {fields : List (String × α)}
    (h : Sorted fields) :
  Sorted (insert key value fields)
  := by
  induction fields with
  | nil => simp [insert, Sorted]
  | cons q r ih =>
      obtain ⟨hq, hr⟩ := List.pairwise_cons.mp h
      simp only [insert]
      split
      · next hlt =>
          apply List.Pairwise.cons _ h
          intro p hp
          rcases List.mem_cons.mp hp with rfl | hp
          · apply hlt
          · apply String.lt_trans hlt (hq p hp)
      · next hlt =>
          split
          · next heq =>
              rw [heq]
              apply List.Pairwise.cons _ hr
              intro p hp
              apply hq p hp
          · next hne =>
              apply List.Pairwise.cons _ (ih hr)
              intro p hp
              rcases mem_insert hp with rfl | hp
              · have hle : q.1 ≤ key := String.not_lt.mp hlt
                apply String.not_le.mp
                intro hge
                apply hne (String.le_antisymm hge hle)
              · apply hq p hp

theorem sorted_erase {α : Type} {fields : List (String × α)} (key : String)
    (h : Sorted fields) :
  Sorted (erase fields key)
  := List.Pairwise.filter _ h

theorem sorted_ofList {α : Type} (pairs : List (String × α)) :
  Sorted (ofList pairs)
  := by
  have hstep : ∀ fields, Sorted fields →
      Sorted (pairs.foldl (fun fields p => insert p.1 p.2 fields) fields) := by
    induction pairs with
    | nil =>
        intro fields h
        apply h
    | cons p r ih =>
        intro fields h
        apply ih _ (sorted_insert p.1 p.2 h)
  apply hstep [] List.Pairwise.nil

end BoundSql.Fields
