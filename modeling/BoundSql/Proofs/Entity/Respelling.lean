import BoundSql.Proofs.Entity.Columns
import BoundSql.Proofs.FieldBag
import Mathlib.Data.List.Forall2
import Mathlib.Data.List.Perm.Basic

/-!
# Respelled names

A field has two names, its property and its column, and a call that sets it may
use either. An update keeps one value under each name, and a field is assigned
the last of these values, in the order in which its names were first used, that
is not left out as null. Two runs of calls that differ in the names of the same
fields have the same outcome exactly when they are refused in any case or every
field is assigned the same in both.
-/

namespace BoundSql

open BoundSql.Text FieldBag

/-! ### Names of a field -/

namespace Entity

theorem position?_congr (e : Entity) {name other : String} (h : sameName name other = true) :
  e.position? name = e.position? other
  := by
  rw [sameName_iff] at h
  simp only [position?, Ident.isNamed, sameName, h]

theorem field?_congr (e : Entity) {name other : String} (h : sameName name other = true) :
  e.field? name = e.field? other
  := by
  rw [field?, field?, e.position?_congr h]

/-- Names for the same position address the same field. -/
theorem field?_eq_of_position? (e : Entity) {name other : String}
    (h : e.position? name = e.position? other) :
  e.field? name = e.field? other
  := by
  rw [field?, field?, h]

/-- A name that has a position addresses the field at this position. -/
theorem exists_of_position? {e : Entity} {name : String} {i : Nat} (h : e.position? name = some i) :
  ∃ f, e.fields[i]? = some f ∧ e.field? name = some f
  := by
  have hi : i < e.fields.length := by
    rw [position?, Option.or_eq_some_iff] at h
    rcases h with h | ⟨-, h⟩
    · obtain ⟨hi, -⟩ := List.findIdx?_eq_some_iff_getElem.mp h
      use hi
    · obtain ⟨hi, -⟩ := List.findIdx?_eq_some_iff_getElem.mp h
      use hi
  use e.fields[i], List.getElem?_eq_getElem hi
  rw [field?, h, Option.bind_some, List.getElem?_eq_getElem hi]

theorem field?_eq_none_iff {e : Entity} {name : String} :
  e.field? name = none ↔ e.position? name = none
  := by
  constructor
  · intro h
    cases hposition : e.position? name with
    | none => rfl
    | some i =>
        obtain ⟨f, -, hf⟩ := exists_of_position? hposition
        rw [h] at hf
        contradiction
  · intro h
    rw [field?, h, Option.bind_none]

end Entity

namespace Update

/-! ### Runs of calls -/

/-- A call on an update under construction. -/
inductive Call where
  | set (name : String) (v : Value)
  | ignoreNulls
  | includeNulls
  | audit
  | token (v : Value)

namespace Call

/-- The update after a call. -/
def apply (u : Update) : Call → Update
  | .set name v => u.set name v
  | .ignoreNulls => { u with includesNulls := false }
  | .includeNulls => { u with includesNulls := true }
  | .audit => { u with audits := true }
  | .token v => { u with token := some v }

/-- What a call sets. -/
def write? : Call → Option (String × Value)
  | .set name v => some (name, v)
  | _ => none

/-- A call is the same as another, or sets the same value under another name of the same field. -/
inductive Respelled (e : Entity) : Call → Call → Prop where
  | same (call : Call) : Respelled e call call
  | renamed {name other : String} {i : Nat} (v : Value) (h : e.position? name = some i)
      (hother : e.position? other = some i) : Respelled e (.set name v) (.set other v)

end Call

/-- The update after calls. -/
def ofCalls (id : Value) (calls : List Call) : Update :=
  calls.foldl Call.apply { id := id }

/-- The names and values that calls set, in order. -/
def writes (calls : List Call) : List (String × Value) :=
  calls.filterMap Call.write?

theorem sets_ofCalls (id : Value) (calls : List Call) :
  (ofCalls id calls).sets = .ofPairs (writes calls)
  := by
  have hrun : ∀ u : Update, (calls.foldl Call.apply u).sets
      = (writes calls).foldl (fun b p => b.set p.1 p.2) u.sets := by
    induction calls with
    | nil =>
        intro u
        rfl
    | cons call calls ih =>
        intro u
        rw [List.foldl_cons, ih]
        cases call with
        | _ => rfl
  apply hrun

variable {e : Entity} {calls calls' : List Call}

/-- Respelled calls differ in what is set only. -/
theorem ofCalls_of_respelled (h : List.Forall₂ (Call.Respelled e) calls calls') (id : Value) :
  ofCalls id calls' = { ofCalls id calls with sets := .ofPairs (writes calls') }
  := by
  have hrun : ∀ u u' : Update, (∃ sets, u' = { u with sets := sets }) →
      ∃ sets, calls'.foldl Call.apply u' = { calls.foldl Call.apply u with sets := sets } := by
    induction h with
    | nil =>
        intro u u' h
        apply h
    | @cons call _ _ _ hcall _ ih =>
        rintro u _ ⟨sets, rfl⟩
        apply ih
        cases hcall with
        | same _ =>
            cases call with
            | set name v => exact ⟨_, rfl⟩
            | _ => exact ⟨sets, rfl⟩
        | renamed v _ _ => exact ⟨_, rfl⟩
  obtain ⟨sets, hcalls⟩ := hrun { id := id } _ ⟨_, rfl⟩
  change ofCalls id calls' = { ofCalls id calls with sets := sets } at hcalls
  rw [← sets_ofCalls id calls', hcalls]

/-- Respelled calls set the same fields to the same values, one after the other. -/
theorem writes_of_respelled (h : List.Forall₂ (Call.Respelled e) calls calls') :
  List.Forall₂ (fun p p' => e.field? p.1 = e.field? p'.1 ∧ p.2 = p'.2) (writes calls)
    (writes calls')
  := by
  induction h with
  | nil => apply List.Forall₂.nil
  | @cons call _ _ _ hcall _ ih =>
      cases hcall with
      | same _ =>
          cases call with
          | set name v => apply List.Forall₂.cons ⟨rfl, rfl⟩ ih
          | _ => apply ih
      | renamed v hname hother =>
          apply List.Forall₂.cons _ ih
          use e.field?_eq_of_position? (hname.trans hother.symm)

/-! ### Values that fields are assigned -/

/-- The value that a field is assigned among others. -/
def valueOf (f : Field) (sets : List (Field × Value)) : Option Value :=
  (sets.find? fun p => p.1 = f).map Prod.snd

theorem valueOf_cons (f : Field) (p : Field × Value) (sets : List (Field × Value)) :
  valueOf f (p :: sets) = if p.1 = f then some p.2 else valueOf f sets
  := by
  rw [valueOf, List.find?_cons]
  by_cases h : p.1 = f
  · simp [h]
  · simp [h, valueOf]

theorem valueOf_assign (f g : Field) (v : Value) (sets : List (Field × Value)) :
  valueOf g (assign f v sets) = if f = g then some v else valueOf g sets
  := by
  induction sets with
  | nil => rw [assign, valueOf_cons]
  | cons p sets ih =>
      rw [assign]
      by_cases hf : p.1 = f
      · rw [if_pos hf, valueOf_cons, valueOf_cons, hf]
        split
        · rfl
        · rfl
      · rw [if_neg hf, valueOf_cons, valueOf_cons, ih]
        split
        · next hp =>
            rw [if_neg]
            rintro rfl
            apply hf hp
        · rfl

/-- Among assignments of different fields, the value of a field is the one paired with it. -/
theorem mem_iff_valueOf {sets : List (Field × Value)} (h : (sets.map Prod.fst).Nodup) (f : Field)
    (v : Value) :
  (f, v) ∈ sets ↔ valueOf f sets = some v
  := by
  induction sets with
  | nil => simp [valueOf]
  | cons p sets ih =>
      rw [List.map_cons, List.nodup_cons] at h
      rw [List.mem_cons, valueOf_cons, ih h.2]
      split
      · next hp =>
          subst hp
          have hnone : valueOf p.1 sets ≠ some v := by
            intro hvalue
            apply h.1 (List.mem_map.mpr ⟨_, (ih h.2).mpr hvalue, rfl⟩)
          simp [hnone, Prod.ext_iff, eq_comm]
      · next hp =>
          have hne : (f, v) ≠ p := by
            rintro rfl
            apply hp rfl
          simp [hne]

/-- Whether a value is assigned rather than left out. -/
def isKept (includesNulls : Bool) (v : Value) : Bool :=
  !(v.isNull && !includesNulls)

/-- Whether a name addresses a field. -/
def addresses (e : Entity) (f : Field) (name : String) : Bool :=
  e.field? name = some f

/-- A field is assigned the last value that is set under a name of it and is not left out. -/
theorem valueOf_assignments {includesNulls : Bool} {before all : List (Field × Value)}
    {named : List (String × Value)} (h : assignments e includesNulls before named = .ok all)
    (f : Field) :
  valueOf f all
    = (((named.filter fun p => addresses e f p.1).map Prod.snd).filter
        (isKept includesNulls)).getLast?.or (valueOf f before)
  := by
  induction named generalizing before with
  | nil =>
      obtain rfl := Except.ok.inj h
      rfl
  | cons p named ih =>
      obtain ⟨name, v⟩ := p
      rw [assignments] at h
      split at h
      · contradiction
      · next g hg =>
          split at h
          · contradiction
          · split at h
            · next hnull =>
                rw [ih h, List.filter_cons]
                split
                · simp [isKept, hnull]
                · rfl
            · next hkept =>
                rw [ih h, valueOf_assign, List.filter_cons]
                simp only [addresses, hg, decide_eq_true_eq, Option.some_inj]
                split
                · have hkept' : isKept includesNulls v = true := by
                    rw [isKept, Bool.not_eq_true']
                    apply Bool.eq_false_iff.mpr hkept
                  rw [List.map_cons, List.filter_cons_of_pos hkept', List.getLast?_cons]
                  cases List.getLast? _ with
                  | none => rfl
                  | some w => rfl
                · rfl

/-- Whether a name addresses a field that may be assigned. -/
def addressesAssignable (e : Entity) (name : String) : Bool :=
  (e.field? name).any isAssignable

/-- Names and values are assigned exactly when every name addresses a field that may be assigned. -/
theorem exists_assignments_iff {includesNulls : Bool} {before : List (Field × Value)}
    {named : List (String × Value)} :
  (∃ all, assignments e includesNulls before named = .ok all)
    ↔ ∀ p ∈ named, addressesAssignable e p.1 = true
  := by
  induction named generalizing before with
  | nil => simp [assignments]
  | cons p named ih =>
      obtain ⟨name, v⟩ := p
      rw [List.forall_mem_cons, addressesAssignable, assignments]
      cases e.field? name with
      | none => simp
      | some f =>
          rw [Option.any_some]
          cases hf : isAssignable f with
          | false => simp [hf]
          | true =>
              have hfixed : (!isAssignable f) ≠ true := by simp [hf]
              simp only [if_neg hfixed, true_and]
              split
              · apply ih
              · apply ih

/-- The value that a field is assigned by the given writes: of the values that are set last under
each of its names, in the order in which the names were first used, the last one that is not left
out. -/
def settled (e : Entity) (includesNulls : Bool) (writes : List (String × Value)) (f : Field) :
    Option Value :=
  let own := writes.filter fun p => addresses e f p.1
  (((firstNames own).filterMap (lastUnder own)).filter (isKept includesNulls)).getLast?

theorem addresses_congr (e : Entity) (f : Field) {name other : String}
    (h : sameName name other = true) :
  addresses e f name = addresses e f other
  := by
  rw [addresses, addresses, e.field?_congr h]

/-- A bag of writes assigns the settled values. -/
theorem valueOf_assignments_ofPairs {includesNulls : Bool} {writes : List (String × Value)}
    {all : List (Field × Value)}
    (h : assignments e includesNulls [] (FieldBag.ofPairs writes).fields = .ok all) (f : Field) :
  valueOf f all = settled e includesNulls writes f
  := by
  have hsnd : ∀ pairs : List (String × Value),
      ((firstNames pairs).filterMap (lastField pairs)).map Prod.snd
        = (firstNames pairs).filterMap (lastUnder pairs) := by
    intro pairs
    rw [List.map_filterMap]
    apply List.filterMap_congr
    intro name _
    rw [lastField, Option.map_map]
    apply Option.map_id'
  rw [valueOf_assignments h, filter_ofPairs (fun _ _ => addresses_congr e f), fields_ofPairs, hsnd,
    valueOf, List.find?_nil, Option.map_none, Option.or_none]
  rfl

/-- A field that is set under one name is assigned the last value, unless it is left out. -/
theorem settled_of_sameName {includesNulls : Bool} {writes : List (String × Value)} {f : Field}
    {name : String} (h : ∀ p ∈ writes, addresses e f p.1 = true → sameName p.1 name = true) :
  settled e includesNulls writes f
    = (((writes.filter fun p => addresses e f p.1).map Prod.snd).getLast?).filter
      (isKept includesNulls)
  := by
  have hown : ∀ p ∈ writes.filter (fun p => addresses e f p.1), sameName p.1 name = true := by
    intro p hp
    rw [List.mem_filter] at hp
    apply h p hp.1 hp.2
  simp only [settled]
  generalize writes.filter (fun p => addresses e f p.1) = own at hown
  by_cases hne : own = []
  · rw [hne]
    rfl
  · obtain ⟨first, hfirst, hsame⟩ := firstNames_of_sameName hown hne
    have hall : (own.filter fun p => sameName p.1 first) = own := by
      rw [List.filter_eq_self]
      intro p hp
      rw [sameName_comm] at hsame
      apply sameName_trans (hown p hp) hsame
    rw [hfirst, List.filterMap_cons, lastUnder, hall]
    cases (own.map Prod.snd).getLast? with
    | none => rfl
    | some v =>
        cases hkept : isKept includesNulls v with
        | false => simp [hkept, Option.filter]
        | true => simp [hkept, Option.filter]

/-! ### Outcomes -/

/-- What an update asks of the entity and of the stamp, whatever values it sets. -/
structure Admissible (u : Update) (e : Entity) (stamp : Option Stamp) : Prop where
  fields : ∀ p ∈ u.sets.fields, addressesAssignable e p.1 = true
  audited : u.audits = true → e.audited = true
  stamped : u.audits = true → stamp.isSome = true
  token : u.token.isSome = e.token.isSome

variable {u : Update} {stamp : Option Stamp} {all : List (Field × Value)}

/-- An admissible update that keeps assignments is planned. -/
theorem Admissible.plan_eq (h : u.Admissible e stamp)
    (hall : assignments e u.includesNulls [] u.sets.fields = .ok all) (hne : u.kept all ≠ []) :
  u.plan e = .ok ⟨e, u.kept all⟩
  := by
  have haudited : (u.audits && !e.audited) ≠ true := by
    simpa using h.audited
  have hkept : (u.kept all).isEmpty ≠ true := by
    simpa using hne
  have htoken := h.token
  rw [plan_of_assignments hall, if_neg haudited, if_neg hkept]
  cases hdeclared : e.token with
  | none =>
      cases hgiven : u.token with
      | none => rfl
      | some v => simp [hdeclared, hgiven] at htoken
  | some f =>
      cases hgiven : u.token with
      | none => simp [hdeclared, hgiven] at htoken
      | some v => rfl

/-- An admissible update compiles exactly when it keeps assignments. -/
theorem Admissible.exists_compile_iff (h : u.Admissible e stamp)
    (hall : assignments e u.includesNulls [] u.sets.fields = .ok all) :
  (∃ s, u.compile e stamp = .ok s) ↔ u.kept all ≠ []
  := by
  constructor
  · rintro ⟨s, hs⟩
    rw [compile] at hs
    obtain ⟨plan, hplan, -⟩ := bind_eq_ok.mp hs
    obtain ⟨all', hall', -, -, hne, -⟩ := exists_of_plan hplan
    rw [hall] at hall'
    obtain rfl := Except.ok.inj hall'
    apply hne
  · intro hne
    rw [compile_of_plan (h.plan_eq hall hne)]
    apply exists_render _ h.stamped

theorem admissible_of_compile {s : Statement} (h : u.compile e stamp = .ok s) :
  u.Admissible e stamp
  := by
  rw [compile] at h
  obtain ⟨plan, hplan, -⟩ := bind_eq_ok.mp h
  obtain ⟨all, hall, -, haudited, -, htoken⟩ := exists_of_plan hplan
  constructor
  · apply exists_assignments_iff.mp ⟨all, hall⟩
  · apply haudited
  · intro haudits
    obtain ⟨t, rfl⟩ := exists_stamp_of_compile h haudits
    rfl
  · apply htoken

theorem addressesAssignable_congr (e : Entity) {name other : String}
    (h : sameName name other = true) :
  addressesAssignable e name = addressesAssignable e other
  := by
  rw [addressesAssignable, addressesAssignable, e.field?_congr h]

/-- Respelled writes address fields that may be assigned alike. -/
theorem forall_addressesAssignable_iff {pairs pairs' : List (String × Value)}
    (h : List.Forall₂ (fun p p' => e.field? p.1 = e.field? p'.1 ∧ p.2 = p'.2) pairs pairs') :
  (∀ p ∈ pairs, addressesAssignable e p.1 = true) ↔ ∀ p ∈ pairs', addressesAssignable e p.1 = true
  := by
  induction h with
  | nil => rfl
  | cons hp _ ih =>
      rw [List.forall_mem_cons, List.forall_mem_cons, ih, addressesAssignable, hp.1]
      rfl

/-- Respelled calls ask the same of the entity and of the stamp. -/
theorem admissible_iff_of_respelled (h : List.Forall₂ (Call.Respelled e) calls calls') (id : Value)
    (stamp : Option Stamp) :
  (ofCalls id calls).Admissible e stamp ↔ (ofCalls id calls').Admissible e stamp
  := by
  have hfields : (∀ p ∈ (ofCalls id calls).sets.fields, addressesAssignable e p.1 = true)
      ↔ ∀ p ∈ (ofCalls id calls').sets.fields, addressesAssignable e p.1 = true := by
    rw [sets_ofCalls, sets_ofCalls, forall_mem_ofPairs (fun _ _ => addressesAssignable_congr e),
      forall_mem_ofPairs (fun _ _ => addressesAssignable_congr e)]
    apply forall_addressesAssignable_iff (writes_of_respelled h)
  rw [sets_ofCalls id calls'] at hfields
  rw [ofCalls_of_respelled h]
  constructor
  · intro hadmissible
    use hfields.mp hadmissible.fields, hadmissible.audited, hadmissible.stamped, hadmissible.token
  · intro hadmissible
    use hfields.mpr hadmissible.fields, hadmissible.audited, hadmissible.stamped,
      hadmissible.token

/-- Two outcomes are both failures, or both statements that pick the same rows of the same table and
assign the same to the same columns. -/
def Alike : Except Error Statement → Except Error Statement → Prop
  | .ok s, .ok s' => ∃ m m', s.readModification? = some m ∧ s'.readModification? = some m'
    ∧ m.table = m'.table ∧ m.sets.Perm m'.sets ∧ m.clauses = m'.clauses
  | .error _, .error _ => True
  | _, _ => False

/-- A field is assigned by the plan of an update, not by its stamp. -/
def Keeps (u : Update) (f : Field) : Prop :=
  u.audits = true → Audit.isEditor f.column = false

theorem mem_kept_iff (u : Update) (all : List (Field × Value)) (f : Field) (v : Value) :
  (f, v) ∈ u.kept all ↔ (f, v) ∈ all ∧ u.Keeps f
  := by
  rw [kept, Keeps]
  split
  · next haudits => simp [haudits]
  · next haudits => simp [haudits]

/-- Assignments of different fields keep the same exactly when they agree on every field that is
kept. -/
theorem perm_kept_iff {all all' : List (Field × Value)} (h : Assignable e (all.map Prod.fst))
    (h' : Assignable e (all'.map Prod.fst)) :
  (u.kept all).Perm (u.kept all')
    ↔ ∀ f ∈ e.fields, u.Keeps f → valueOf f all = valueOf f all'
  := by
  have hnodup : (u.kept all).Nodup := List.Nodup.of_map _ h.kept.nodup
  have hnodup' : (u.kept all').Nodup := List.Nodup.of_map _ h'.kept.nodup
  rw [List.perm_ext_iff_of_nodup hnodup hnodup']
  constructor
  · intro hmem f hf hkept
    apply Option.ext
    intro v
    have hpair := hmem (f, v)
    rw [mem_kept_iff, mem_kept_iff] at hpair
    rw [← mem_iff_valueOf h.nodup, ← mem_iff_valueOf h'.nodup]
    simpa [hkept] using hpair
  · rintro hvalue ⟨f, v⟩
    rw [mem_kept_iff, mem_kept_iff]
    constructor
    · rintro ⟨hmem, hkept⟩
      obtain ⟨hfield, -⟩ := h.field f (List.mem_map_of_mem hmem)
      rw [mem_iff_valueOf h.nodup, hvalue f hfield hkept, ← mem_iff_valueOf h'.nodup] at hmem
      apply And.intro hmem hkept
    · rintro ⟨hmem, hkept⟩
      obtain ⟨hfield, -⟩ := h'.field f (List.mem_map_of_mem hmem)
      rw [mem_iff_valueOf h'.nodup, ← hvalue f hfield hkept, ← mem_iff_valueOf h.nodup] at hmem
      apply And.intro hmem hkept

theorem mem_of_perm_map {sets sets' : List (Field × Value)} (h : Assignable e (sets.map Prod.fst))
    (h' : Assignable e (sets'.map Prod.fst))
    (hperm : (sets.map fun (f, v) => Assignment.ofPair (f.column, v)).Perm
      (sets'.map fun (f, v) => Assignment.ofPair (f.column, v))) {f : Field} {v : Value}
    (hmem : (f, v) ∈ sets) :
  (f, v) ∈ sets'
  := by
  have hassigned := hperm.subset (List.mem_map_of_mem hmem)
  obtain ⟨⟨g, w⟩, hg, hpair⟩ := List.mem_map.mp hassigned
  obtain ⟨hcolumn, hvalue⟩ := Assignment.mk.inj hpair
  obtain rfl := Assigned.value.inj hvalue
  rw [← Entity.eq_of_column (h'.field g (List.mem_map_of_mem hg)).1
    (h.field f (List.mem_map_of_mem hmem)).1 hcolumn]
  apply hg

/-- Assignments to the columns of fields tell the assignments of the fields. -/
theorem perm_map_iff {sets sets' : List (Field × Value)} (h : Assignable e (sets.map Prod.fst))
    (h' : Assignable e (sets'.map Prod.fst)) :
  (sets.map fun (f, v) => Assignment.ofPair (f.column, v)).Perm
      (sets'.map fun (f, v) => Assignment.ofPair (f.column, v))
    ↔ sets.Perm sets'
  := by
  constructor
  · intro hperm
    rw [List.perm_ext_iff_of_nodup (List.Nodup.of_map _ h.nodup) (List.Nodup.of_map _ h'.nodup)]
    rintro ⟨f, v⟩
    constructor
    · apply mem_of_perm_map h h' hperm
    · apply mem_of_perm_map h' h hperm.symm
  · intro hperm
    apply hperm.map

/-- The statement of an admissible update tells the assignments that are kept. -/
theorem Admissible.readModification? (h : u.Admissible e stamp)
    (hall : assignments e u.includesNulls [] u.sets.fields = .ok all) {s : Statement}
    (hs : u.compile e stamp = .ok s) :
  s.readModification? = some (u.modification ⟨e, u.kept all⟩ stamp)
  := by
  have hne := (h.exists_compile_iff hall).mp ⟨s, hs⟩
  obtain ⟨plan, hplan, hread⟩ := readModification?_of_compile hs
  rw [h.plan_eq hall hne] at hplan
  obtain rfl := Except.ok.inj hplan
  apply hread

/-- An admissible update that is refused keeps no assignments. -/
theorem Admissible.kept_eq_nil (h : u.Admissible e stamp)
    (hall : assignments e u.includesNulls [] u.sets.fields = .ok all) {err : Error}
    (hs : u.compile e stamp = .error err) :
  u.kept all = []
  := by
  by_contra hne
  obtain ⟨s, hs'⟩ := (h.exists_compile_iff hall).mpr hne
  rw [hs] at hs'
  contradiction

/-- Admissible updates that differ in what they set have outcomes alike exactly when they keep the
same assignments. -/
theorem Admissible.alike_iff {sets' : FieldBag} {all' : List (Field × Value)}
    (h : u.Admissible e stamp) (h' : { u with sets := sets' }.Admissible e stamp)
    (hall : assignments e u.includesNulls [] u.sets.fields = .ok all)
    (hall' : assignments e u.includesNulls [] sets'.fields = .ok all') :
  Alike (u.compile e stamp) ({ u with sets := sets' }.compile e stamp)
    ↔ (u.kept all).Perm (u.kept all')
  := by
  cases hs : u.compile e stamp with
  | error err =>
      rw [h.kept_eq_nil hall hs]
      cases hs' : { u with sets := sets' }.compile e stamp with
      | error err' =>
          have hnone : u.kept all' = [] := h'.kept_eq_nil hall' hs'
          rw [hnone]
          simp [Alike]
      | ok s' =>
          have hne : u.kept all' ≠ [] := (h'.exists_compile_iff hall').mp ⟨s', hs'⟩
          simp [Alike, hne]
  | ok s =>
      have hne := (h.exists_compile_iff hall).mp ⟨s, hs⟩
      cases hs' : { u with sets := sets' }.compile e stamp with
      | error err' =>
          have hnone : u.kept all' = [] := h'.kept_eq_nil hall' hs'
          simp [Alike, hnone, hne]
      | ok s' =>
          have hread := h.readModification? hall hs
          have hread' := h'.readModification? hall' hs'
          have hassignable : Assignable e ((u.kept all).map Prod.fst) :=
            (assignable_of_assignments ⟨by simp, by simp⟩ hall).kept
          have hassignable' : Assignable e ((u.kept all').map Prod.fst) :=
            (assignable_of_assignments ⟨by simp, by simp⟩ hall').kept
          rw [← perm_map_iff hassignable hassignable']
          constructor
          · rintro ⟨m, m', hm, hm', -, hsets, -⟩
            obtain rfl := Option.some.inj (hread.symm.trans hm)
            obtain rfl := Option.some.inj (hread'.symm.trans hm')
            apply (List.perm_append_right_iff _).mp
            apply (List.perm_append_right_iff _).mp hsets
          · intro hperm
            refine ⟨_, _, hread, hread', rfl, ?_, rfl⟩
            apply List.Perm.append_right
            apply hperm.append_right

/-- An update that asks too much is refused. -/
theorem exists_error_of_not_admissible (h : ¬ u.Admissible e stamp) :
  ∃ err, u.compile e stamp = .error err
  := by
  cases hs : u.compile e stamp with
  | error err => use err
  | ok s =>
      exfalso
      apply h (admissible_of_compile hs)

/-- Respelled calls have outcomes alike exactly when they are refused for what they ask of the
entity and of the stamp, or every field that is kept is assigned the same by both. A field that is
set under one name is assigned the last value, unless it is left out. -/
theorem alike_respelled_iff (h : List.Forall₂ (Call.Respelled e) calls calls') (id : Value)
    (stamp : Option Stamp) :
  (Alike ((ofCalls id calls).compile e stamp) ((ofCalls id calls').compile e stamp)
    ↔ ¬ (ofCalls id calls).Admissible e stamp
      ∨ ∀ f ∈ e.fields, (ofCalls id calls).Keeps f →
        settled e (ofCalls id calls).includesNulls (writes calls) f
          = settled e (ofCalls id calls).includesNulls (writes calls') f)
    ∧ ∀ f name, (∀ p ∈ writes calls, addresses e f p.1 = true → sameName p.1 name = true) →
      settled e (ofCalls id calls).includesNulls (writes calls) f
        = (((writes calls).filter fun p => addresses e f p.1).map Prod.snd).getLast?.filter
          (isKept (ofCalls id calls).includesNulls)
  := by
  constructor
  · by_cases hadmissible : (ofCalls id calls).Admissible e stamp
    · have hadmissible' := (admissible_iff_of_respelled h id stamp).mp hadmissible
      rw [ofCalls_of_respelled h] at hadmissible' ⊢
      obtain ⟨all, hall⟩ := exists_assignments_iff.mpr hadmissible.fields
      obtain ⟨all', hall'⟩ := exists_assignments_iff.mpr hadmissible'.fields
      rw [hadmissible.alike_iff hadmissible' hall hall', perm_kept_iff
        (assignable_of_assignments ⟨by simp, by simp⟩ hall)
        (assignable_of_assignments ⟨by simp, by simp⟩ hall')]
      rw [sets_ofCalls] at hall
      simp only [valueOf_assignments_ofPairs hall, valueOf_assignments_ofPairs hall', hadmissible,
        not_true_eq_false, false_or]
    · have hadmissible' : ¬ (ofCalls id calls').Admissible e stamp := by
        rw [← admissible_iff_of_respelled h]
        apply hadmissible
      obtain ⟨err, herr⟩ := exists_error_of_not_admissible hadmissible
      obtain ⟨err', herr'⟩ := exists_error_of_not_admissible hadmissible'
      rw [herr, herr']
      simp [Alike, hadmissible]
  · intro f name hname
    apply settled_of_sameName hname

end Update

/-! ### Labels -/

/-- A label in a column of another name. -/
def labelText : Field :=
  ⟨"label", ⟨"label_text", by decide⟩, false, false, false⟩

/-- A lot with a key and such a label. -/
def labeledLot : Entity where
  name := "Lot"
  table := lot.table
  fields := [lotKey, labelText]
  key := lotKey
  token := none
  audited := false
  distinct := by decide +kernel
  keys_eq := by decide +kernel
  tokens_eq := by decide +kernel

/-- The declaration of such a lot. -/
def labeledLotShape : EntityShape where
  name := "Lot"
  table := "lot"
  audited := false
  fields := [{ property := "id", column := "id", isKey := true },
    { property := "label", column := "label_text" }]

/-- The modification that sets the label of lot 9. -/
def labelSet (v : Value) : Modification where
  table := labeledLot.table
  sets := [.ofPair (labelText.column, v)]
  clauses := [.compare lotKey.column .equal (.int 9)]

/-- A label that is set to a null behind a value is the null under either name. -/
theorem Update.alike_respelled_iff_label :
  List.Forall₂ (Call.Respelled labeledLot)
      [.set "label" (.text "A"), .includeNulls, .set "Label" .null]
      [.set "label_text" (.text "A"), .includeNulls, .set "LABEL_TEXT" .null]
    ∧ Alike
      ((ofCalls (.int 9) [.set "label" (.text "A"), .includeNulls, .set "Label" .null]).compile
        labeledLot none)
      ((ofCalls (.int 9) [.set "label_text" (.text "A"), .includeNulls,
        .set "LABEL_TEXT" .null]).compile labeledLot none)
  := by
  have hrespelled : List.Forall₂ (Call.Respelled labeledLot)
      [.set "label" (.text "A"), .includeNulls, .set "Label" .null]
      [.set "label_text" (.text "A"), .includeNulls, .set "LABEL_TEXT" .null] := by
    apply List.Forall₂.cons (.renamed (i := 1) _ (by decide +kernel) (by decide +kernel))
    apply List.Forall₂.cons (.same _)
    apply List.Forall₂.cons (.renamed (i := 1) _ (by decide +kernel) (by decide +kernel))
    apply List.Forall₂.nil
  use hrespelled
  apply (alike_respelled_iff hrespelled (.int 9) none).1.mpr
  right
  intro f hf _
  rcases List.mem_cons.mp hf with rfl | hf
  · rfl
  · obtain rfl := List.mem_singleton.mp hf
    rfl

/-- A label that is set under its property, then under its column, then under its property again is
not what it is when it is set under its property three times. -/
theorem Update.not_alike_respelled :
  ¬ ∀ (shape : EntityShape) (e : Entity) (calls calls' : List Call) (id : Value)
    (stamp : Option Stamp), Entity.ofShape shape = .ok e →
      List.Forall₂ (Call.Respelled e) calls calls' →
        Alike ((ofCalls id calls).compile e stamp) ((ofCalls id calls').compile e stamp)
  := by
  intro h
  have hshape : Entity.ofShape labeledLotShape = .ok labeledLot := by rfl
  have hrespelled : List.Forall₂ (Call.Respelled labeledLot)
      [.set "label" (.text "A"), .set "label" (.text "B"), .set "label" (.text "C")]
      [.set "label" (.text "A"), .set "label_text" (.text "B"), .set "label" (.text "C")] := by
    apply List.Forall₂.cons (.same _)
    apply List.Forall₂.cons (.renamed (i := 1) _ (by decide +kernel) (by decide +kernel))
    apply List.Forall₂.cons (.same _)
    apply List.Forall₂.nil
  have halike := h _ _ _ _ (.int 9) none hshape hrespelled
  have hlast : (ofCalls (.int 9) [.set "label" (.text "A"), .set "label" (.text "B"),
      .set "label" (.text "C")]).compile labeledLot none
        = .ok (labelSet (.text "C")).fragment.build := by rfl
  have hsecond : (ofCalls (.int 9) [.set "label" (.text "A"), .set "label_text" (.text "B"),
      .set "label" (.text "C")]).compile labeledLot none
        = .ok (labelSet (.text "B")).fragment.build := by rfl
  rw [hlast, hsecond] at halike
  obtain ⟨m, m', hm, hm', -, hsets, -⟩ := halike
  rw [Modification.readModification?_build _ (List.cons_ne_nil _ _) (List.cons_ne_nil _ _)]
    at hm hm'
  obtain rfl := Option.some.inj hm
  obtain rfl := Option.some.inj hm'
  have hsame := List.singleton_perm_singleton.mp hsets
  simp [Assignment.ofPair] at hsame

end BoundSql
