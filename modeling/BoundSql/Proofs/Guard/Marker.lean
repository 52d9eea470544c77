import BoundSql.Guard.Marker
import Mathlib.Tactic.Use

/-!
# Names of markers

The names of a text are those that occur in its markers, each once, in the order
of their first occurrences; letter case does not tell them apart. Every marker
has the number of its name among them, and every number is that of a marker.
-/

namespace BoundSql.Marker

open BoundSql.Text

/-! ### Names that occur -/

/-- The names of the markers of a text, each as often as it occurs. -/
def occurring (sql : String) : List String :=
  (lexemes sql.toList).filterMap name?

theorem mem_occurring_iff (sql : String) (name : List Char) :
  String.ofList name ∈ occurring sql ↔ Lexeme.marker name ∈ lexemes sql.toList
  := by
  rw [occurring, List.mem_filterMap]
  constructor
  · rintro ⟨l, hl, hname⟩
    cases l with
    | marker name' =>
        obtain rfl := String.ofList_injective (Option.some.inj hname)
        apply hl
    | _ => contradiction
  · intro h
    use .marker name, h
    rfl

/-- Adding names one after the other keeps the first of those that are the same. -/
theorem foldl_addName (added names : List String) :
  added.foldl addName names = List.eraseDupsBy.loop sameName added names.reverse
  := by
  induction added generalizing names with
  | nil => simp [List.eraseDupsBy.loop]
  | cons name added ih =>
      rw [List.foldl_cons, ih, List.eraseDupsBy.loop, List.any_reverse, addName]
      have hsame : sameName name = (sameName · name) := by
        funext other
        apply sameName_comm
      rw [hsame]
      cases names.any (sameName · name) with
      | true => rfl
      | false => simp

/-- The names of a text are the first ones of those that occur. -/
theorem names_eq (sql : String) :
  names sql = (occurring sql).eraseDupsBy sameName
  := foldl_addName (occurring sql) []

theorem mem_foldl_addName {added names : List String} {name : String}
    (h : name ∈ added.foldl addName names) :
  name ∈ names ∨ name ∈ added
  := by
  induction added generalizing names with
  | nil =>
      left
      apply h
  | cons other added ih =>
      rcases ih h with hname | hname
      · rw [addName] at hname
        split at hname
        · left
          apply hname
        · rw [List.mem_append, List.mem_singleton] at hname
          rcases hname with hname | rfl
          · left
            apply hname
          · right
            apply List.mem_cons_self
      · right
        apply List.mem_cons_of_mem _ hname

/-- The names of a text occur in it. -/
theorem occurring_of_mem_names {sql name : String} (h : name ∈ names sql) :
  name ∈ occurring sql
  := by
  rcases mem_foldl_addName h with hname | hname
  · contradiction
  · apply hname

/-- A name is the same as one of the names after it is added. -/
theorem exists_mem_addName {names : List String} {other name : String}
    (h : sameName other name = true ∨ ∃ known ∈ names, sameName known name = true) :
  ∃ known ∈ addName names other, sameName known name = true
  := by
  rw [addName]
  split
  · next hother =>
      rcases h with hname | h
      · obtain ⟨known, hknown, hsame⟩ := List.any_eq_true.mp hother
        use known, hknown
        apply sameName_trans hsame hname
      · apply h
  · rcases h with hname | ⟨known, hknown, hsame⟩
    · use other, List.mem_append_right _ (List.mem_singleton_self other)
    · use known, List.mem_append_left _ hknown

theorem exists_mem_foldl_addName {added names : List String} {name : String}
    (h : name ∈ added ∨ ∃ known ∈ names, sameName known name = true) :
  ∃ known ∈ added.foldl addName names, sameName known name = true
  := by
  induction added generalizing names with
  | nil => simpa using h
  | cons other added ih =>
      apply ih
      rw [List.mem_cons] at h
      rcases h with (rfl | hname) | hknown
      · right
        apply exists_mem_addName
        left
        apply sameName_refl
      · left
        apply hname
      · right
        apply exists_mem_addName
        right
        apply hknown

/-- A name that occurs in a text is the same as one of its names. -/
theorem exists_mem_names {sql name : String} (h : name ∈ occurring sql) :
  ∃ known ∈ names sql, sameName known name = true
  := by
  apply exists_mem_foldl_addName
  left
  apply h

/-- Names of which no two are the same. -/
def Distinct (names : List String) : Prop :=
  names.Pairwise fun name name' => sameName name name' = false

theorem Distinct.addName {names : List String} (h : Distinct names) (name : String) :
  Distinct (addName names name)
  := by
  rw [Marker.addName]
  split
  · apply h
  · next hname =>
      simp only [List.any_eq_true, not_exists, not_and, Bool.not_eq_true] at hname
      apply List.pairwise_append.mpr
      use h, List.pairwise_singleton _ name
      intro known hknown other hother
      rw [List.mem_singleton] at hother
      subst hother
      apply hname known hknown

theorem distinct_names (sql : String) :
  Distinct (names sql)
  := by
  have hfold : ∀ (added names : List String), Distinct names →
      Distinct (added.foldl Marker.addName names) := by
    intro added
    induction added with
    | nil =>
        intro names h
        apply h
    | cons name added ih =>
        intro names h
        apply ih _ (h.addName name)
  apply hfold _ _ List.Pairwise.nil

/-! ### Numbers -/

/-- The number of a name among others, from one on. -/
def number (names : List String) (name : String) : Nat :=
  names.findIdx (sameName · name) + 1

/-- Distinct names are numbered in order. -/
theorem Distinct.map_number {names : List String} (h : Distinct names) :
  names.map (number names) = List.range' 1 names.length
  := by
  apply List.ext_getElem
  · simp
  · intro i hi _
    rw [List.length_map] at hi
    have hindex : names.findIdx (sameName · names[i]) = i := by
      rw [List.findIdx_eq hi]
      use sameName_refl _
      intro j hji
      apply List.pairwise_iff_getElem.mp h j i (Nat.lt_trans hji hi) hi hji
    rw [List.getElem_map, number, hindex, List.getElem_range', Nat.one_mul, Nat.add_comm]

/-- The name at the number of a marker is the same as its name. -/
theorem names_number {sql name : String} (h : name ∈ occurring sql) :
  number (names sql) name ≤ (names sql).length
    ∧ ∃ known, (names sql)[number (names sql) name - 1]? = some known ∧ sameName known name = true
  := by
  have hlt := List.findIdx_lt_length_of_exists (exists_mem_names h)
  have hsame := List.findIdx_getElem (w := hlt)
  use hlt, (names sql)[(names sql).findIdx (sameName · name)], List.getElem?_eq_getElem hlt

/-- Names have the same number exactly when they are the same. -/
theorem number_eq_iff {sql name name' : String} (hname : name ∈ occurring sql)
    (hname' : name' ∈ occurring sql) :
  number (names sql) name = number (names sql) name' ↔ sameName name name' = true
  := by
  obtain ⟨_, known, hknown, hsame⟩ := names_number hname
  obtain ⟨_, known', hknown', hsame'⟩ := names_number hname'
  constructor
  · intro h
    rw [h, hknown'] at hknown
    obtain rfl := Option.some.inj hknown
    rw [sameName_comm] at hsame
    apply sameName_trans hsame hsame'
  · intro h
    rw [sameName_iff] at h
    simp only [number, sameName, h]

/-- Every number is that of a marker. -/
theorem exists_number {sql : String} {k : Nat} (hpos : 1 ≤ k) (hk : k ≤ (names sql).length) :
  ∃ name ∈ occurring sql, number (names sql) name = k
  := by
  have hmem : k ∈ (names sql).map (number (names sql)) := by
    rw [(distinct_names sql).map_number, List.mem_range'_1]
    omega
  obtain ⟨name, hname, hnumber⟩ := List.mem_map.mp hmem
  use name, occurring_of_mem_names hname

/-- A lexeme with a marker replaced by the placeholder of its number. -/
def substituted (number : String → Nat) : Lexeme → List Char
  | .marker name => '$' :: digits (number (String.ofList name))
  | l => l.chars

/-- Every marker of a text becomes the placeholder of its number. -/
theorem toList_withPlaceholders (sql : String) :
  (withPlaceholders (names sql) sql).toList
    = (lexemes sql.toList).flatMap (substituted (number (names sql)))
  := by
  rw [withPlaceholders, String.toList_ofList, List.flatMap_def, List.flatMap_def]
  congr 1
  apply List.map_congr_left
  intro l hl
  cases l with
  | marker name =>
      have hoccurs := exists_mem_names ((mem_occurring_iff sql name).mpr hl)
      rw [numbered, List.findIdx?_eq_some_of_exists hoccurs]
      rfl
  | _ => rfl

end BoundSql.Marker
