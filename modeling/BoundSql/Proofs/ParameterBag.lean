import BoundSql.ParameterBag
import BoundSql.Proofs.Json.Fields
import Mathlib.Data.List.Induction
import Mathlib.Data.List.Pairwise

/-!
# Names in parameter bags

A name addresses the same value as any other name that differs from it in letter
case only. What a bag says of names depends only on the entries that these names
address. A value that is set takes the place of the first of them, so it replaces
them all in a bag that was filled value by value, but not in every bag.
-/

namespace BoundSql

open BoundSql.Text

namespace ParameterBag

/-! ### Letter case -/

theorem bareName_marked {name : String} {r : List Char} (h : name.toList = '@' :: r) :
  bareName name = String.ofList r
  := by
  rw [bareName, h]
  rfl

theorem bareName_unmarked {name : String} (h : ∀ r, name.toList ≠ '@' :: r) :
  bareName name = name
  := by
  rw [bareName]
  split
  · next r hr => cases h r hr
  · rfl

/-- Letter case does not matter to the marker in front of a name. -/
theorem lower_bareName (name : String) :
  lower (bareName name) = bareName (lower name)
  := by
  by_cases h : ∃ r, name.toList = '@' :: r
  · obtain ⟨r, hr⟩ := h
    have hlower : (lower name).toList = '@' :: r.map Char.toLower := by
      simp [lower, hr]
    rw [bareName_marked hr, bareName_marked hlower, lower, String.toList_ofList]
  · rw [not_exists] at h
    have hlower : ∀ r, (lower name).toList ≠ '@' :: r := by
      intro r hr
      rw [lower, String.toList_ofList, List.map_eq_cons_iff] at hr
      obtain ⟨c, s, hs, hc, _⟩ := hr
      rw [toLower_eq_iff (by decide)] at hc
      subst hc
      apply h s hs
    rw [bareName_unmarked h, bareName_unmarked hlower]

/-- Names that differ in letter case only address the same keys. -/
theorem sameParameter_congr (key : String) {name name' : String}
    (h : sameName name name' = true) :
  sameParameter key name = sameParameter key name'
  := by
  rw [sameName_iff] at h
  simp only [sameParameter, sameName, lower_bareName, h]

/-- Names that differ in letter case only have the same value. -/
theorem get?_congr (b : ParameterBag) {name name' : String} (h : sameName name name' = true) :
  b.get? name = b.get? name'
  := by
  simp only [get?, sameParameter_congr _ h]

/-! ### Entries that names address -/

/-- The entries that some of the names address. -/
def addressed (b : ParameterBag) (names : List String) : List (String × Json) :=
  b.entries.filter fun p => names.any (sameParameter p.1)

/-- The value of a name is found among the entries that it addresses. -/
theorem get?_eq_of_mem (b : ParameterBag) {names : List String} {name : String}
    (hname : name ∈ names) :
  b.get? name = ((b.addressed names).find? fun p => sameParameter p.1 name).map Prod.snd
  := by
  rw [get?, addressed, List.find?_filter]
  apply congrArg fun f => (b.entries.find? f).map Prod.snd
  funext p
  simp only [List.any_eq_true, Bool.decide_and, Bool.decide_eq_true, Bool.eq_and_self,
    decide_eq_true_eq]
  intro h
  use name

/-- Bags with the same entries for names have the same values of them. -/
theorem get?_eq_of_addressed {b c : ParameterBag} {names : List String}
    (h : b.addressed names = c.addressed names) {name : String} (hname : name ∈ names) :
  b.get? name = c.get? name
  := by
  rw [b.get?_eq_of_mem hname, c.get?_eq_of_mem hname, h]

/-! ### Values that are set -/

variable {b : ParameterBag} {name other : String} {value : Json}

theorem sameParameter_refl (name : String) :
  sameParameter name name = true
  := sameName_refl _

/-- Names of the same parameter address the same keys. -/
theorem sameParameter_right_congr (h : sameParameter other name = true) (key : String) :
  sameParameter key other = sameParameter key name
  := by
  rw [sameParameter, sameName_iff] at h
  rw [sameParameter, sameParameter, sameName, sameName, h]

theorem sameParameter_comm (name other : String) :
  sameParameter name other = sameParameter other name
  := sameName_comm _ _

theorem sameParameter_trans {middle : String} (h : sameParameter other middle = true)
    (h' : sameParameter middle name = true) :
  sameParameter other name = true
  := sameName_trans h h'

/-- The entries that a name addresses, in order. -/
def variants (b : ParameterBag) (name : String) : List (String × Json) :=
  b.entries.filter fun p => sameParameter p.1 name

theorem mem_variants_iff {p : String × Json} :
  p ∈ b.variants name ↔ p ∈ b.entries ∧ sameParameter p.1 name = true
  := List.mem_filter

theorem sorted_variants (b : ParameterBag) (name : String) :
  Fields.Sorted (b.variants name)
  := b.sorted.filter _

theorem key?_eq_head? (b : ParameterBag) (name : String) :
  b.key? name = (b.variants name).head?.map Prod.fst
  := by
  rw [key?, variants, List.head?_filter]

theorem get?_eq_head? (b : ParameterBag) (name : String) :
  b.get? name = (b.variants name).head?.map Prod.snd
  := by
  rw [get?, variants, List.head?_filter]

theorem variants_congr (b : ParameterBag) (h : sameParameter other name = true) :
  b.variants other = b.variants name
  := by
  simp only [variants, sameParameter_right_congr h]

/-- The entries without the first one that a name addresses. -/
def kept (b : ParameterBag) (name : String) : List (String × Json) :=
  (b.key? name).elim b.entries (Fields.erase b.entries)

theorem entries_insert (b : ParameterBag) (name : String) (value : Json) :
  (b.insert name value).entries = Fields.insert name value (b.kept name)
  := by
  simp only [insert, kept]
  cases b.key? name with
  | none => rfl
  | some key => rfl

theorem sorted_kept (b : ParameterBag) (name : String) :
  Fields.Sorted (b.kept name)
  := by
  rw [kept]
  cases b.key? name with
  | none => apply b.sorted
  | some key => apply Fields.sorted_erase key b.sorted

/-- The first entry that a name addresses goes. -/
theorem filter_kept (b : ParameterBag) (name : String) :
  (b.kept name).filter (fun p => sameParameter p.1 name) = (b.variants name).tail
  := by
  have hsorted := b.sorted_variants name
  rw [kept, key?_eq_head?]
  cases hvariants : b.variants name with
  | nil => apply hvariants
  | cons first rest =>
      rw [hvariants, Fields.Sorted, List.pairwise_cons] at hsorted
      have hrest : ∀ p ∈ rest, (p.1 != first.1) = true := by
        intro p hp
        rw [bne_iff_ne]
        apply (String.ne_of_lt (hsorted.1 p hp)).symm
      rw [List.head?_cons, Option.map_some, Option.elim_some, Fields.filter_erase, ← variants,
        hvariants, Fields.erase, List.filter_cons_of_neg (by simp), List.filter_eq_self.mpr hrest,
        List.tail_cons]

/-- The entries that other names address stay. -/
theorem filter_kept_of_other (h : sameParameter other name = false) :
  (b.kept name).filter (fun p => sameParameter p.1 other) = b.variants other
  := by
  rw [kept, key?_eq_head?]
  cases hvariants : b.variants name with
  | nil => rfl
  | cons first rest =>
      have hfirst : sameParameter first.1 name = true := by
        have hmem : first ∈ b.variants name := by simp [hvariants]
        apply (mem_variants_iff.mp hmem).2
      rw [List.head?_cons, Option.map_some, Option.elim_some, Fields.filter_erase, ← variants,
        Fields.erase, List.filter_eq_self]
      intro p hp
      rw [bne_iff_ne]
      intro heq
      have hother := (mem_variants_iff.mp hp).2
      rw [heq, sameParameter_comm, sameParameter_right_congr hfirst, h] at hother
      cases hother

/-- A value that is set stands among the entries that its name addresses in the place of the first
of them. -/
theorem variants_insert (b : ParameterBag) (name : String) (value : Json) :
  (b.insert name value).variants name = Fields.insert name value (b.variants name).tail
  := by
  rw [← filter_kept, variants, entries_insert]
  apply Fields.filter_insert_of_pos (f := (sameParameter · name)) (sameParameter_refl name)
    (b.sorted_kept name)

/-- What other names address stays as it is. -/
theorem variants_insert_of_other (value : Json) (h : sameParameter other name = false) :
  (b.insert name value).variants other = b.variants other
  := by
  apply Eq.trans _ (filter_kept_of_other h)
  rw [variants, entries_insert]
  apply Fields.filter_insert_of_neg (f := (sameParameter · other))
  rw [sameParameter_comm, h]

/-- A bag has a value under a name in the place of all that the name addresses in another one, and
is otherwise like the other one. -/
structure Replaces (c b : ParameterBag) (name : String) (value : Json) : Prop where
  found : ∀ other, sameParameter other name = true → c.get? other = some value
  alone : ∀ p ∈ c.entries, sameParameter p.1 name = true → p.1 = name
  others : ∀ other, sameParameter other name = false → c.get? other = b.get? other

theorem get?_insert_of_other (value : Json) (h : sameParameter other name = false) :
  (b.insert name value).get? other = b.get? other
  := by
  rw [get?_eq_head?, get?_eq_head?, variants_insert_of_other value h]

/-- When the name is all that it addresses behind the first entry, a value that is set is the only
one that it addresses. -/
theorem replaces_insert (value : Json) (h : ∀ p ∈ (b.variants name).tail, p.1 = name) :
  (b.insert name value).Replaces b name value
  := by
  have hsingle : (b.insert name value).variants name = [(name, value)] := by
    rw [variants_insert, Fields.insert_of_eq (b.sorted_variants name).tail h]
  constructor
  · intro other hother
    rw [get?_eq_head?, variants_congr _ hother, hsingle]
    rfl
  · intro p hp hname
    have hmem := mem_variants_iff.mpr ⟨hp, hname⟩
    rw [hsingle, List.mem_singleton] at hmem
    rw [hmem]
  · intro other hother
    apply get?_insert_of_other value hother

/-- An entry that the name addresses behind the first one stays, unless it has the very name. -/
theorem eq_of_replaces_insert (h : (b.insert name value).Replaces b name value) :
  ∀ p ∈ (b.variants name).tail, p.1 = name
  := by
  intro p hp
  by_cases heq : p.1 = name
  · apply heq
  · have hmem : p ∈ (b.insert name value).variants name := by
      rw [variants_insert]
      apply Fields.mem_insert_of_ne hp heq
    obtain ⟨hentries, hname⟩ := mem_variants_iff.mp hmem
    apply h.alone p hentries hname

theorem forall_mem_tail_variants_iff (b : ParameterBag) (name : String) :
  (∀ p ∈ (b.variants name).tail, p.1 = name)
    ↔ ∀ p ∈ b.entries, sameParameter p.1 name = true → b.key? name = some p.1 ∨ p.1 = name
  := by
  have hsorted := b.sorted_variants name
  rw [key?_eq_head?]
  have hentries : (∀ p ∈ b.entries, sameParameter p.1 name = true →
      (b.variants name).head?.map Prod.fst = some p.1 ∨ p.1 = name)
      ↔ ∀ p ∈ b.variants name, (b.variants name).head?.map Prod.fst = some p.1 ∨ p.1 = name := by
    simp only [mem_variants_iff, and_imp]
  rw [hentries]
  cases hvariants : b.variants name with
  | nil => simp
  | cons first rest =>
      rw [hvariants, Fields.Sorted, List.pairwise_cons] at hsorted
      rw [List.forall_mem_cons, List.tail_cons, List.head?_cons, Option.map_some]
      constructor
      · intro h
        use .inl rfl
        intro p hp
        right
        apply h p hp
      · rintro ⟨-, h⟩ p hp
        apply (h p hp).resolve_left
        intro heq
        apply String.ne_of_lt (hsorted.1 p hp) (Option.some.inj heq)

/-! ### Bags that are filled value by value -/

/-- Every parameter has at most one value in the bag. -/
def IsSingle (b : ParameterBag) : Prop :=
  ∀ name, (b.variants name).tail = []

theorem IsSingle.insert (h : b.IsSingle) (name : String) (value : Json) :
  (b.insert name value).IsSingle
  := by
  intro other
  cases hother : sameParameter other name with
  | true =>
      rw [variants_congr _ hother, variants_insert, h name]
      rfl
  | false =>
      rw [variants_insert_of_other value hother]
      apply h other

theorem isSingle_ofPairs (pairs : List (String × Json)) :
  (ofPairs pairs).IsSingle
  := by
  have hfold : ∀ b : ParameterBag, b.IsSingle →
      (pairs.foldl (fun b p => b.insert p.1 p.2) b).IsSingle := by
    induction pairs with
    | nil =>
        intro b h
        apply h
    | cons p pairs ih =>
        intro b h
        rw [List.foldl_cons]
        apply ih _ (h.insert p.1 p.2)
  apply hfold
  intro name
  rfl

/-- A value that is set replaces all that its name addresses exactly when these are the first entry
that it addresses and one with the very name, as far as they are there. What other names address
stays in any case. In a bag that was filled value by value every value that is set replaces what its
name addresses. -/
theorem replaces_insert_iff (b : ParameterBag) (name : String) (value : Json) :
  ((b.insert name value).Replaces b name value
      ↔ ∀ p ∈ b.entries, sameParameter p.1 name = true → b.key? name = some p.1 ∨ p.1 = name)
    ∧ (∀ other, sameParameter other name = false →
      (b.insert name value).get? other = b.get? other)
    ∧ ∀ pairs, ((ofPairs pairs).insert name value).Replaces (ofPairs pairs) name value
  := by
  refine ⟨?_, ?_, ?_⟩
  · rw [← forall_mem_tail_variants_iff]
    use eq_of_replaces_insert, replaces_insert value
  · intro other hother
    apply get?_insert_of_other value hother
  · intro pairs
    apply replaces_insert
    rw [isSingle_ofPairs]
    simp

/-- A bag with one parameter under two names, as an object may have them. -/
def twiceNamed : ParameterBag :=
  ofFields [("@a", .bool true), ("A", .bool false)]

/-- A value that is set under the second of the names replaces both; one that is set under a third
name leaves the second, which is found in front of it. Neither is found under another name. -/
theorem replaces_insert_iff_twiceNamed :
  (twiceNamed.insert "A" .null).Replaces twiceNamed "A" .null
    ∧ ¬ (twiceNamed.insert "a" .null).Replaces twiceNamed "a" .null
    ∧ (twiceNamed.insert "a" .null).get? "a" = some (.bool false)
    ∧ sameParameter "b" "a" = false
    ∧ (twiceNamed.insert "a" .null).get? "b" = twiceNamed.get? "b"
  := by
  have hother : sameParameter "b" "a" = false := by decide +kernel
  obtain ⟨hreplaces, hstays, -⟩ := replaces_insert_iff twiceNamed "a" .null
  refine ⟨?_, ?_, rfl, hother, hstays "b" hother⟩
  · rw [(replaces_insert_iff twiceNamed "A" .null).1]
    decide +kernel
  · rw [hreplaces]
    decide +kernel

/-- A value that is set is not always found under its name. -/
theorem not_replaces_insert :
  ¬ ∀ (b : ParameterBag) (name : String) (value : Json), (b.insert name value).Replaces b name value
  := by
  intro h
  have hfound := (h twiceNamed "a" .null).found "a" (by decide +kernel)
  have hget : (twiceNamed.insert "a" .null).get? "a" = some (.bool false) := by rfl
  rw [hget] at hfound
  cases hfound

/-! ### Parameters in any order and spelling -/

/-- The value of a name is that of the first entry that the name addresses. -/
def Finds (b : ParameterBag) (name : String) (j : Json) : Prop :=
  ∃ before key after, b.entries = before ++ (key, j) :: after
    ∧ (∀ p ∈ before, sameParameter p.1 name = false) ∧ sameParameter key name = true

theorem get?_eq_some_iff {j : Json} :
  b.get? name = some j ↔ b.Finds name j
  := by
  rw [get?, Option.map_eq_some_iff]
  constructor
  · rintro ⟨⟨key, j⟩, hfind, rfl⟩
    obtain ⟨hkey, before, after, hentries, hbefore⟩ := List.find?_eq_some_iff_append.mp hfind
    use before, key, after, hentries
    constructor
    · intro p hp
      simpa using hbefore p hp
    · apply hkey
  · rintro ⟨before, key, after, hentries, hbefore, hkey⟩
    use (key, j)
    constructor
    · apply List.find?_eq_some_iff_append.mpr
      use hkey, before, after, hentries
      intro p hp
      rw [hbefore p hp]
      rfl
    · rfl

theorem get?_eq_none_iff :
  b.get? name = none ↔ ∀ p ∈ b.entries, sameParameter p.1 name = false
  := by
  rw [get?, Option.map_eq_none_iff, List.find?_eq_none]
  simp

/-- Names of the same parameter have the same value. -/
theorem get?_of_sameParameter (b : ParameterBag) (h : sameParameter other name = true) :
  b.get? other = b.get? name
  := by
  rw [get?_eq_head?, get?_eq_head?, variants_congr b h]

/-- No two pairs are for the same parameter. -/
def Apart (pairs : List (String × Json)) : Prop :=
  pairs.Pairwise fun p q => sameParameter p.1 q.1 = false

/-- Pairs are for the same parameters as others and with the same values, in any order and under
names in any spelling. -/
structure Respells (pairs pairs' : List (String × Json)) : Prop where
  forth : ∀ p ∈ pairs, ∃ q ∈ pairs', sameParameter p.1 q.1 = true ∧ p.2 = q.2
  back : ∀ q ∈ pairs', ∃ p ∈ pairs, sameParameter p.1 q.1 = true ∧ p.2 = q.2

/-- A bag holds pairs: every value in it is that of a pair, and each of the pairs' names has one. -/
structure Holds (b : ParameterBag) (pairs : List (String × Json)) : Prop where
  found : ∀ name j, b.get? name = some j → ∃ p ∈ pairs, sameParameter p.1 name = true ∧ p.2 = j
  complete : ∀ p ∈ pairs, (b.get? p.1).isSome = true

theorem holds_entries (b : ParameterBag) :
  b.Holds b.entries
  := by
  constructor
  · intro name j hget
    obtain ⟨before, key, after, hentries, -, hkey⟩ := get?_eq_some_iff.mp hget
    use (key, j), by simp [hentries], hkey
  · intro p hp
    rw [Option.isSome_iff_ne_none]
    intro hnone
    have hother := get?_eq_none_iff.mp hnone p hp
    rw [sameParameter_refl] at hother
    contradiction

theorem ofPairs_concat (pairs : List (String × Json)) (p : String × Json) :
  ofPairs (pairs ++ [p]) = (ofPairs pairs).insert p.1 p.2
  := by
  rw [ofPairs, List.foldl_append]
  rfl

/-- A bag that is filled value by value holds the pairs by which it is filled. -/
theorem holds_ofPairs (pairs : List (String × Json)) :
  (ofPairs pairs).Holds pairs
  := by
  induction pairs using List.reverseRecOn with
  | nil =>
      constructor
      · intro name j hget
        contradiction
      · intro p hp
        contradiction
  | append_singleton pairs p ih =>
      have hreplaces : ((ofPairs pairs).insert p.1 p.2).Replaces (ofPairs pairs) p.1 p.2 := by
        apply replaces_insert
        rw [isSingle_ofPairs]
        simp
      rw [ofPairs_concat]
      constructor
      · intro name j hget
        cases hname : sameParameter name p.1 with
        | true =>
            rw [hreplaces.found name hname] at hget
            use p, by simp
            rw [sameParameter_comm]
            apply And.intro hname (Option.some.inj hget)
        | false =>
            rw [hreplaces.others name hname] at hget
            obtain ⟨q, hq, hfound⟩ := ih.found name j hget
            use q, List.mem_append_left _ hq
      · intro q hq
        cases hname : sameParameter q.1 p.1 with
        | true =>
            rw [hreplaces.found q.1 hname]
            rfl
        | false =>
            rw [hreplaces.others q.1 hname]
            apply ih.complete
            apply (List.mem_append.mp hq).resolve_right
            intro hp
            rw [List.mem_singleton.mp hp, sameParameter_refl] at hname
            contradiction

variable {pairs pairs' : List (String × Json)}

theorem Apart.eq_of_sameParameter (h : Apart pairs) {p q : String × Json} (hp : p ∈ pairs)
    (hq : q ∈ pairs) (hpname : sameParameter p.1 name = true)
    (hqname : sameParameter q.1 name = true) :
  p = q
  := by
  by_contra hne
  have hsymm : Std.Symm fun p q : String × Json => sameParameter p.1 q.1 = false := by
    constructor
    intro p q hother
    rw [sameParameter_comm]
    apply hother
  have hother := List.Pairwise.forall h hp hq hne
  rw [sameParameter_comm] at hqname
  rw [sameParameter_trans hpname hqname] at hother
  cases hother

/-- Pairs for different parameters are found in a bag whatever their order and spelling. -/
theorem get?_eq_of_respells {a b : ParameterBag} (ha : a.Holds pairs) (hb : b.Holds pairs')
    (hapart : Apart pairs) (h : Respells pairs pairs') (name : String) :
  a.get? name = b.get? name
  := by
  cases hget : b.get? name with
  | none =>
      by_contra hsome
      obtain ⟨j, hj⟩ := Option.ne_none_iff_exists'.mp hsome
      obtain ⟨p, hp, hpname, -⟩ := ha.found name j hj
      obtain ⟨q, hq, hsame, -⟩ := h.forth p hp
      have hq' := hb.complete q hq
      rw [sameParameter_comm] at hsame
      rw [b.get?_of_sameParameter (sameParameter_trans hsame hpname), hget] at hq'
      cases hq'
  | some j =>
      obtain ⟨q, hq, hqname, rfl⟩ := hb.found name j hget
      obtain ⟨p, hp, hsame, hvalue⟩ := h.back q hq
      have hpname := sameParameter_trans hsame hqname
      have hp' := ha.complete p hp
      rw [a.get?_of_sameParameter hpname, Option.isSome_iff_exists] at hp'
      obtain ⟨j, hj⟩ := hp'
      obtain ⟨p', hmem, hname, rfl⟩ := ha.found name j hj
      rw [hj, hapart.eq_of_sameParameter hmem hp hname hpname, hvalue]

end ParameterBag

end BoundSql
