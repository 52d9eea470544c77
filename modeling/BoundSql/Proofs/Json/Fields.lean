import BoundSql.Json.Fields
import Mathlib.Tactic.Use

/-!
# Fields

A field that is set is found under its key, and the others stay as they are, also
behind a filter on the keys. Pairs that are set in order leave under each key the
value of the last one.
-/

namespace BoundSql.Fields

variable {α : Type}

section

variable {key : String} {value : α} {fields : List (String × α)}

/-! ### Fields behind a filter on their keys -/

theorem insert_of_lt (h : ∀ p ∈ fields, key < p.1) :
  insert key value fields = (key, value) :: fields
  := by
  cases fields with
  | nil => rfl
  | cons p fields =>
      obtain ⟨hp, _⟩ := List.forall_mem_cons.mp h
      rw [insert, if_pos hp]

/-- Fields that all have the key become the one that is set. -/
theorem insert_of_eq (hsorted : Sorted fields) (h : ∀ p ∈ fields, p.1 = key) :
  insert key value fields = [(key, value)]
  := by
  cases fields with
  | nil => rfl
  | cons p fields =>
      obtain ⟨hp, hfields⟩ := List.forall_mem_cons.mp h
      obtain ⟨hlt, _⟩ := List.pairwise_cons.mp hsorted
      have hnone : fields = [] := by
        rw [List.eq_nil_iff_forall_not_mem]
        intro q hq
        have hless := hlt q hq
        rw [hp, hfields q hq] at hless
        apply String.lt_irrefl key hless
      rw [insert, hp, if_neg (String.lt_irrefl key), if_pos rfl, hnone]

theorem mem_insert_of_ne {p : String × α} (hp : p ∈ fields) (hne : p.1 ≠ key) :
  p ∈ insert key value fields
  := by
  induction fields with
  | nil => contradiction
  | cons q fields ih =>
      rw [insert]
      split
      · apply List.mem_cons_of_mem _ hp
      · split
        · next heq =>
            apply List.mem_cons_of_mem
            apply (List.mem_cons.mp hp).resolve_left
            rintro rfl
            apply hne heq.symm
        · rcases List.mem_cons.mp hp with rfl | hp
          · apply List.mem_cons_self
          · apply List.mem_cons_of_mem _ (ih hp)

/-- A field that a filter leaves out makes no difference behind it. -/
theorem filter_insert_of_neg {f : String → Bool} (h : f key = false) :
  (insert key value fields).filter (f ·.1) = fields.filter (f ·.1)
  := by
  induction fields with
  | nil => simp [insert, h]
  | cons p fields ih =>
      rw [insert]
      split
      · simp [h]
      · split
        · next heq => simp [h, ← heq]
        · rw [List.filter_cons, List.filter_cons, ih]

/-- A field that a filter lets through can be set behind it. -/
theorem filter_insert_of_pos {f : String → Bool} (h : f key = true) (hsorted : Sorted fields) :
  (insert key value fields).filter (f ·.1) = insert key value (fields.filter (f ·.1))
  := by
  induction fields with
  | nil => simp [insert, h]
  | cons p fields ih =>
      obtain ⟨hp, hfields⟩ := List.pairwise_cons.mp hsorted
      rw [insert]
      split
      · next hlt =>
          have hbehind : ∀ q ∈ (p :: fields).filter (f ·.1), key < q.1 := by
            intro q hq
            rcases List.mem_cons.mp (List.mem_filter.mp hq).1 with rfl | hq
            · apply hlt
            · apply String.lt_trans hlt (hp q hq)
          rw [insert_of_lt hbehind, List.filter_cons, if_pos h]
      · next hlt =>
          split
          · next heq =>
              have hf : f p.1 = true := heq ▸ h
              rw [List.filter_cons, if_pos h, List.filter_cons, if_pos hf, insert, if_neg hlt,
                if_pos heq]
          · next hne =>
              rw [List.filter_cons, List.filter_cons, ih hfields]
              split
              · rw [insert, if_neg hlt, if_neg hne]
              · rfl

theorem filter_erase (f : String × α → Bool) :
  (erase fields key).filter f = erase (fields.filter f) key
  := by
  simp only [erase, List.filter_filter, Bool.and_comm]

end

/-! ### Values under a key -/

variable (key key' : String)

theorem find?_cons (p : String × α) (fields : List (String × α)) :
  find? (p :: fields) key' = if p.1 = key' then some p.2 else find? fields key'
  := by
  rw [find?, List.find?_cons]
  by_cases h : p.1 = key'
  · simp [h]
  · rw [beq_eq_false_iff_ne.mpr h, if_neg h, find?]

/-- A field that is set has its value, and the others stay as they are. -/
theorem find?_insert (value : α) (fields : List (String × α)) :
  find? (insert key value fields) key' = if key = key' then some value else find? fields key'
  := by
  induction fields with
  | nil => apply find?_cons
  | cons p fields ih =>
      obtain ⟨k, v⟩ := p
      rw [insert]
      split
      · rw [find?_cons]
      · split
        · next heq =>
            subst heq
            rw [find?_cons, find?_cons]
            by_cases h : key = key'
            · simp [h]
            · simp [h]
        · next hne =>
            rw [find?_cons, find?_cons, ih]
            by_cases h : k = key'
            · subst h
              simp [hne]
            · simp [h]

/-- The value of the last pair with a key. -/
def last? (pairs : List (String × α)) : Option α :=
  (pairs.reverse.find? fun p => p.1 == key).map Prod.snd

theorem last?_cons (p : String × α) (pairs : List (String × α)) :
  last? key (p :: pairs) = (last? key pairs).or (if p.1 = key then some p.2 else none)
  := by
  rw [last?, last?, List.reverse_cons, List.find?_append]
  cases pairs.reverse.find? fun q => q.1 == key with
  | some q => rfl
  | none =>
      by_cases h : p.1 = key
      · simp [h]
      · simp [h]

/-- The fields of a list of pairs have under each key the last value. -/
theorem find?_ofList (pairs : List (String × α)) :
  find? (ofList pairs) key = last? key pairs
  := by
  have hfold : ∀ fields : List (String × α),
      find? (pairs.foldl (fun fields p => insert p.1 p.2 fields) fields) key
        = (last? key pairs).or (find? fields key) := by
    induction pairs with
    | nil =>
        intro fields
        rfl
    | cons p pairs ih =>
        intro fields
        rw [List.foldl_cons, ih, find?_insert, last?_cons, Option.or_assoc]
        by_cases h : p.1 = key
        · simp [h]
        · simp [h]
  rw [ofList, hfold, find?, List.find?_nil, Option.map_none, Option.or_none]

theorem last?_map {β : Type} (f : α → β) (pairs : List (String × α)) :
  last? key (pairs.map fun p => (p.1, f p.2)) = (last? key pairs).map f
  := by
  induction pairs with
  | nil => rfl
  | cons p pairs ih =>
      rw [List.map_cons, last?_cons, last?_cons, ih]
      cases last? key pairs with
      | some a => rfl
      | none =>
          by_cases h : p.1 = key
          · simp [h]
          · simp [h]

end BoundSql.Fields
