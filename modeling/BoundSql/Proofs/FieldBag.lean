import BoundSql.FieldBag
import Mathlib.Data.List.Basic
import Mathlib.Data.List.Induction
import Mathlib.Tactic.Use

/-!
# Fields that are set again

The fields of a bag are the names under which values were set, each once, in the
order of their first use, and under each of them the value that was set last.
Letter case does not tell names apart. What is set under some names makes no
difference to the others.
-/

namespace BoundSql

open BoundSql.Text

/-! ### First uses -/

/-- The first of each class of related elements, in order, when one more element follows. -/
theorem eraseDupsBy_concat {α : Type} (r : α → α → Bool) (as : List α) (a : α) :
  (as ++ [a]).eraseDupsBy r
    = if (as.eraseDupsBy r).any (r a) then as.eraseDupsBy r else as.eraseDupsBy r ++ [a]
  := by
  have hloop : ∀ bs : List α, List.eraseDupsBy.loop r (as ++ [a]) bs
      = if (List.eraseDupsBy.loop r as bs).any (r a) then List.eraseDupsBy.loop r as bs
        else List.eraseDupsBy.loop r as bs ++ [a] := by
    induction as with
    | nil =>
        intro bs
        simp only [List.nil_append, List.eraseDupsBy.loop, List.any_reverse]
        cases bs.any (r a) with
        | true => rfl
        | false => simp
    | cons b as ih =>
        intro bs
        rw [List.cons_append, List.eraseDupsBy.loop, List.eraseDupsBy.loop]
        cases bs.any (r b) with
        | true => apply ih
        | false => apply ih
  apply hloop

namespace FieldBag

/-- The value that is set last under a name. -/
def lastUnder (pairs : List (String × Value)) (name : String) : Option Value :=
  ((pairs.filter fun p => sameName p.1 name).map Prod.snd).getLast?

theorem lastUnder_concat (pairs : List (String × Value)) (p : String × Value) (name : String) :
  lastUnder (pairs ++ [p]) name
    = if sameName p.1 name then some p.2 else lastUnder pairs name
  := by
  rw [lastUnder, List.filter_append]
  cases h : sameName p.1 name with
  | true => simp [h]
  | false => simp [h, lastUnder]

/-- The names under which values are set, in the order of their first use. -/
def firstNames (pairs : List (String × Value)) : List String :=
  (pairs.map Prod.fst).eraseDupsBy sameName

theorem firstNames_concat (pairs : List (String × Value)) (p : String × Value) :
  firstNames (pairs ++ [p])
    = if (firstNames pairs).any (sameName p.1) then firstNames pairs
      else firstNames pairs ++ [p.1]
  := by
  rw [firstNames, List.map_append]
  apply eraseDupsBy_concat

/-- No two of the names are the same. -/
theorem pairwise_firstNames (pairs : List (String × Value)) :
  (firstNames pairs).Pairwise fun name other => sameName name other = false
  := by
  induction pairs using List.reverseRecOn with
  | nil => apply List.Pairwise.nil
  | append_singleton pairs p ih =>
      rw [firstNames_concat]
      split
      · apply ih
      · next hnew =>
          simp only [List.any_eq_true, not_exists, not_and, Bool.not_eq_true] at hnew
          apply List.pairwise_append.mpr
          use ih, List.pairwise_singleton _ p.1
          intro name hname other hother
          rw [List.mem_singleton] at hother
          rw [hother, sameName_comm]
          apply hnew name hname

/-- Names that are all the same are one. -/
theorem firstNames_of_sameName {pairs : List (String × Value)} {name : String}
    (h : ∀ p ∈ pairs, sameName p.1 name = true) (hne : pairs ≠ []) :
  ∃ first, firstNames pairs = [first] ∧ sameName first name = true
  := by
  induction pairs using List.reverseRecOn with
  | nil => contradiction
  | append_singleton pairs p ih =>
      rw [List.forall_mem_append, List.forall_mem_singleton] at h
      rw [firstNames_concat]
      by_cases hpairs : pairs = []
      · subst hpairs
        use p.1, rfl, h.2
      · obtain ⟨first, hfirst, hsame⟩ := ih h.1 hpairs
        use first
        rw [sameName_comm] at hsame
        have hany : (firstNames pairs).any (sameName p.1) = true := by
          rw [hfirst, List.any_cons, sameName_trans h.2 hsame, Bool.true_or]
        rw [if_pos hany, hfirst, sameName_comm first]
        apply And.intro rfl hsame

/-- Under each of the names a value is set. -/
theorem exists_lastUnder {pairs : List (String × Value)} {name : String}
    (h : name ∈ firstNames pairs) :
  ∃ v, lastUnder pairs name = some v
  := by
  induction pairs using List.reverseRecOn with
  | nil => contradiction
  | append_singleton pairs p ih =>
      rw [lastUnder_concat]
      by_cases hsame : sameName p.1 name = true
      · use p.2
        rw [if_pos hsame]
      · rw [if_neg hsame]
        apply ih
        rw [firstNames_concat] at h
        split at h
        · apply h
        · rw [List.mem_append, List.mem_singleton] at h
          rcases h with h | rfl
          · apply h
          · rw [sameName_refl] at hsame
            contradiction

/-- A name and the value that is set last under it. -/
def lastField (pairs : List (String × Value)) (name : String) : Option (String × Value) :=
  (lastUnder pairs name).map (name, ·)

theorem lastField_concat (pairs : List (String × Value)) (p : String × Value) (name : String) :
  lastField (pairs ++ [p]) name
    = if sameName p.1 name then some (name, p.2) else lastField pairs name
  := by
  rw [lastField, lastUnder_concat]
  split
  · rfl
  · rfl

theorem ofPairs_concat (pairs : List (String × Value)) (p : String × Value) :
  ofPairs (pairs ++ [p]) = (ofPairs pairs).set p.1 p.2
  := by
  rw [ofPairs, List.foldl_append]
  rfl

/-- Setting a field replaces the last value under its name among distinct ones, or adds the name. -/
theorem setField_filterMap {pairs : List (String × Value)} (p : String × Value)
    {names : List String} (hdistinct : names.Pairwise fun name other => sameName name other = false)
    (hset : ∀ name ∈ names, ∃ v, lastUnder pairs name = some v) :
  setField p.1 p.2 (names.filterMap (lastField pairs))
    = (if names.any (sameName p.1) then names else names ++ [p.1]).filterMap
      (lastField (pairs ++ [p]))
  := by
  induction names with
  | nil => simp [setField, lastField_concat]
  | cons name names ih =>
      rw [List.pairwise_cons] at hdistinct
      rw [List.forall_mem_cons] at hset
      obtain ⟨v, hv⟩ := hset.1
      have hfield : lastField pairs name = some (name, v) := by
        rw [lastField, hv]
        rfl
      have htail := ih hdistinct.2 hset.2
      rw [List.filterMap_cons_some hfield, setField, List.any_cons, sameName_comm name]
      by_cases hsame : sameName p.1 name = true
      · have hothers : names.filterMap (lastField (pairs ++ [p]))
            = names.filterMap (lastField pairs) := by
          apply List.filterMap_congr
          intro other hother
          rw [lastField_concat, if_neg]
          intro hsame'
          have hsame'' := hdistinct.1 other hother
          rw [sameName_comm] at hsame
          rw [sameName_trans hsame hsame'] at hsame''
          contradiction
        have hname : lastField (pairs ++ [p]) name = some (name, p.2) := by
          rw [lastField_concat, if_pos hsame]
        rw [if_pos hsame, hsame, Bool.true_or, if_pos rfl, List.filterMap_cons_some hname, hothers]
      · have hname : lastField (pairs ++ [p]) name = some (name, v) := by
          rw [lastField_concat, if_neg hsame, hfield]
        have hfalse := Bool.eq_false_iff.mpr hsame
        rw [if_neg hsame, htail, hfalse, Bool.false_or]
        split
        · rw [List.filterMap_cons_some hname]
        · rw [List.cons_append, List.filterMap_cons_some hname]

/-- The fields of a bag are the names in the order of their first use, each with the value that is
set last under it. -/
theorem fields_ofPairs (pairs : List (String × Value)) :
  (ofPairs pairs).fields = (firstNames pairs).filterMap (lastField pairs)
  := by
  induction pairs using List.reverseRecOn with
  | nil => rfl
  | append_singleton pairs p ih =>
      rw [ofPairs_concat, firstNames_concat, ← setField_filterMap p (pairwise_firstNames pairs),
        ← ih]
      · rfl
      · intro name hname
        apply exists_lastUnder hname

/-! ### Classes of names -/

/-- The place of the first set under a name. -/
def firstPlace (pairs : List (String × Value)) (name : String) : Nat :=
  pairs.findIdx fun p => sameName p.1 name

section

variable {pairs : List (String × Value)} {name : String}

theorem firstPlace_lt_iff :
  firstPlace pairs name < pairs.length ↔ ∃ p ∈ pairs, sameName p.1 name = true
  := List.findIdx_lt_length

/-- A further set leaves the first places of the names that are set already. -/
theorem firstPlace_concat_of_lt (h : firstPlace pairs name < pairs.length) (p : String × Value) :
  firstPlace (pairs ++ [p]) name = firstPlace pairs name
  := by
  rw [firstPlace, List.findIdx_append]
  apply if_pos h

/-- A set under a name that is not set already is the first of its class. -/
theorem firstPlace_concat_self {p : String × Value} (h : ¬ firstPlace pairs p.1 < pairs.length) :
  firstPlace (pairs ++ [p]) p.1 = pairs.length
  := by
  rw [firstPlace] at *
  rw [List.findIdx_append, if_neg h, List.findIdx_cons, sameName_refl]
  apply Nat.zero_add

theorem firstPlace_lt_of_mem_firstNames (h : name ∈ firstNames pairs) :
  firstPlace pairs name < pairs.length
  := by
  obtain ⟨v, hv⟩ := exists_lastUnder h
  rw [lastUnder] at hv
  have hmem := List.mem_of_getLast? hv
  rw [List.mem_map] at hmem
  obtain ⟨p, hp, -⟩ := hmem
  obtain ⟨hp, hsame⟩ := List.mem_filter.mp hp
  apply firstPlace_lt_iff.mpr ⟨p, hp, hsame⟩

/-- Each name that is set has one of its class among the first names. -/
theorem exists_mem_firstNames_iff :
  (∃ first ∈ firstNames pairs, sameName name first = true) ↔ firstPlace pairs name < pairs.length
  := by
  rw [firstPlace_lt_iff]
  induction pairs using List.reverseRecOn with
  | nil => simp [firstNames]
  | append_singleton pairs p ih =>
      rw [firstNames_concat]
      simp only [List.mem_append, or_and_right, exists_or, List.mem_singleton, exists_eq_left, ← ih]
      split
      · next hany =>
          rw [List.any_eq_true] at hany
          obtain ⟨first, hfirst, hsame⟩ := hany
          constructor
          · apply Or.inl
          · rintro (h | h)
            · apply h
            · rw [sameName_comm] at h
              use first, hfirst, sameName_trans h hsame
      · simp only [List.mem_append, or_and_right, exists_or, List.mem_singleton, exists_eq_left,
          sameName_comm p.1]

end

/-- A first name is spelled as where its class is first set. -/
theorem spelled_firstNames (pairs : List (String × Value)) :
  ∀ name ∈ firstNames pairs, (pairs[firstPlace pairs name]?).map Prod.fst = some name
  := by
  induction pairs using List.reverseRecOn with
  | nil => simp [firstNames]
  | append_singleton pairs p ih =>
      have hold : ∀ name ∈ firstNames pairs,
          ((pairs ++ [p])[firstPlace (pairs ++ [p]) name]?).map Prod.fst = some name := by
        intro name hname
        have hlt := firstPlace_lt_of_mem_firstNames hname
        rw [firstPlace_concat_of_lt hlt, List.getElem?_append_left hlt, ih name hname]
      rw [firstNames_concat]
      split
      · apply hold
      · next hnew =>
          intro name hname
          rcases List.mem_append.mp hname with hname | hname
          · apply hold name hname
          · obtain rfl := List.mem_singleton.mp hname
            rw [firstPlace_concat_self]
            · simp
            · rw [← exists_mem_firstNames_iff]
              simpa using hnew

/-- First names stand in the order in which their classes are first set. -/
theorem pairwise_firstPlace (pairs : List (String × Value)) :
  (firstNames pairs).Pairwise fun name other => firstPlace pairs name < firstPlace pairs other
  := by
  induction pairs using List.reverseRecOn with
  | nil => apply List.Pairwise.nil
  | append_singleton pairs p ih =>
      have hold : (firstNames pairs).Pairwise fun name other =>
          firstPlace (pairs ++ [p]) name < firstPlace (pairs ++ [p]) other := by
        apply ih.imp_of_mem
        intro name other hname hother hlt
        rw [firstPlace_concat_of_lt (firstPlace_lt_of_mem_firstNames hname),
          firstPlace_concat_of_lt (firstPlace_lt_of_mem_firstNames hother)]
        apply hlt
      rw [firstNames_concat]
      split
      · apply hold
      · next hnew =>
          apply List.pairwise_append.mpr
          use hold, List.pairwise_singleton _ _
          intro name hname other hother
          obtain rfl := List.mem_singleton.mp hother
          have hlt := firstPlace_lt_of_mem_firstNames hname
          rw [firstPlace_concat_of_lt hlt, firstPlace_concat_self]
          · apply hlt
          · rw [← exists_mem_firstNames_iff]
            simpa using hnew

/-- Fields collect sets: they have one entry for each class of names, in the order in which the
classes are first set, spelled as in the first set and with the value of the last one. -/
structure Collects (pairs fields : List (String × Value)) : Prop where
  covers : ∀ p ∈ pairs, ∃ q ∈ fields, sameName p.1 q.1 = true
  ordered : fields.Pairwise fun p q => firstPlace pairs p.1 < firstPlace pairs q.1
  spelled : ∀ p ∈ fields, (pairs[firstPlace pairs p.1]?).map Prod.fst = some p.1
  last : ∀ p ∈ fields, lastUnder pairs p.1 = some p.2

theorem map_fst_ofPairs (pairs : List (String × Value)) :
  (ofPairs pairs).fields.map Prod.fst = firstNames pairs
  := by
  have hnames : ∀ name ∈ firstNames pairs, (lastField pairs name).map Prod.fst = some name := by
    intro name hname
    obtain ⟨v, hv⟩ := exists_lastUnder hname
    rw [lastField, hv]
    rfl
  rw [fields_ofPairs, List.map_filterMap, List.filterMap_congr hnames, List.filterMap_some]

/-- The fields of a bag collect the sets by which it was filled. -/
theorem collects_ofPairs (pairs : List (String × Value)) :
  Collects pairs (ofPairs pairs).fields
  := by
  have hmem : ∀ p ∈ (ofPairs pairs).fields, p.1 ∈ firstNames pairs := by
    intro p hp
    rw [← map_fst_ofPairs]
    apply List.mem_map_of_mem hp
  constructor
  · intro p hp
    have hplace := firstPlace_lt_iff.mpr ⟨p, hp, sameName_refl p.1⟩
    obtain ⟨name, hname, hsame⟩ := exists_mem_firstNames_iff.mpr hplace
    rw [← map_fst_ofPairs, List.mem_map] at hname
    obtain ⟨q, hq, rfl⟩ := hname
    use q, hq
  · have hordered := pairwise_firstPlace pairs
    rw [← map_fst_ofPairs, List.pairwise_map] at hordered
    apply hordered
  · intro p hp
    apply spelled_firstNames pairs p.1 (hmem p hp)
  · intro p hp
    rw [fields_ofPairs, List.mem_filterMap] at hp
    obtain ⟨name, -, hfield⟩ := hp
    obtain ⟨v, hv, rfl⟩ := Option.map_eq_some_iff.mp hfield
    apply hv

/-! ### Other names -/

theorem filter_setField {q : String → Bool} (hq : ∀ name other, sameName name other = true →
      q name = q other) (name : String) (v : Value) (fields : List (String × Value)) :
  (setField name v fields).filter (fun p => q p.1)
    = if q name then setField name v (fields.filter fun p => q p.1)
      else fields.filter fun p => q p.1
  := by
  induction fields with
  | nil => simp [setField, List.filter_cons]
  | cons p fields ih =>
      rw [setField]
      by_cases hsame : sameName p.1 name = true
      · rw [if_pos hsame, List.filter_cons, List.filter_cons, hq p.1 name hsame]
        split
        · rw [setField, if_pos hsame]
        · rfl
      · rw [if_neg hsame, List.filter_cons, List.filter_cons, ih]
        cases q p.1 with
        | false => rfl
        | true =>
            rw [if_pos rfl, if_pos rfl]
            split
            · rw [setField, if_neg hsame]
            · rfl

/-- What is set under some names makes no difference to the others. -/
theorem filter_ofPairs {q : String → Bool} (hq : ∀ name other, sameName name other = true →
      q name = q other) (pairs : List (String × Value)) :
  (ofPairs pairs).fields.filter (fun p => q p.1)
    = (ofPairs (pairs.filter fun p => q p.1)).fields
  := by
  induction pairs using List.reverseRecOn with
  | nil => rfl
  | append_singleton pairs p ih =>
      rw [ofPairs_concat, List.filter_append, set, filter_setField hq, ih]
      cases hp : q p.1 with
      | false => simp [hp]
      | true =>
          have hsingle : [p].filter (fun p => q p.1) = [p] := by simp [hp]
          rw [if_pos rfl, hsingle, ofPairs_concat]
          rfl

theorem fields_ofPairs_eq_nil_iff (pairs : List (String × Value)) :
  (ofPairs pairs).fields = [] ↔ pairs = []
  := by
  constructor
  · intro h
    induction pairs using List.reverseRecOn with
    | nil => rfl
    | append_singleton pairs p _ =>
        exfalso
        rw [ofPairs_concat, set] at h
        cases hfields : (ofPairs pairs).fields with
        | nil => simp [hfields, setField] at h
        | cons q fields =>
            simp only [hfields, setField] at h
            split at h
            · contradiction
            · contradiction
  · rintro rfl
    rfl

/-- What holds of all names of a bag holds of all names under which values are set. -/
theorem forall_mem_ofPairs {q : String → Bool} (hq : ∀ name other, sameName name other = true →
      q name = q other) (pairs : List (String × Value)) :
  (∀ p ∈ (ofPairs pairs).fields, q p.1 = true) ↔ ∀ p ∈ pairs, q p.1 = true
  := by
  have hnot : ∀ name other, sameName name other = true → (!q name) = !q other := by
    intro name other h
    rw [hq name other h]
  have hnone : ∀ l : List (String × Value), (∀ p ∈ l, q p.1 = true)
      ↔ (l.filter fun p => !q p.1) = [] := by
    intro l
    rw [List.filter_eq_nil_iff]
    simp
  rw [hnone, hnone, filter_ofPairs hnot, fields_ofPairs_eq_nil_iff]

end FieldBag

end BoundSql
