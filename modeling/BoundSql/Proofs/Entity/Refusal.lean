import BoundSql.Proofs.Entity.Respelling

/-!
# Refused updates

An update is refused for the first name that it sets and that addresses no field,
or one that may not be assigned, whatever value is set under it. Else it is
refused because it is audited and the entity is not, because it keeps nothing to
assign, because it has no token and the entity has one, or because it has one and
the entity has none, in this order.
-/

namespace BoundSql

open FieldBag

namespace Entity

variable {e : Entity} {f : Field} {name : String} {err : Error}

/-- The key of an entity is the field that is marked as the key. -/
theorem isKey_iff (hf : f ∈ e.fields) :
  f.isKey = true ↔ f = e.key
  := by
  constructor
  · intro h
    rw [← List.mem_singleton, ← e.keys_eq]
    apply List.mem_filter.mpr ⟨hf, h⟩
  · rintro rfl
    apply e.mem_key.2

/-- The token of an entity is the field that is marked as the token. -/
theorem isToken_iff (hf : f ∈ e.fields) :
  f.isToken = true ↔ e.token = some f
  := by
  constructor
  · intro h
    rw [← Option.mem_toList, ← e.tokens_eq]
    apply List.mem_filter.mpr ⟨hf, h⟩
  · intro h
    apply (mem_token h).2

/-- Why a name may not be assigned: it addresses no field, or the key, the token or a generated
field. -/
inductive Bars (e : Entity) (name : String) : Error → Prop where
  | unknown (h : e.position? name = none) : Bars e name (.unknownField e.name name)
  | fixed {f : Field} (h : e.field? name = some f)
      (hfixed : f = e.key ∨ e.token = some f ∨ f.isGenerated = true) :
      Bars e name (.fixedField e.name name)

/-- A name may be assigned. -/
def Admits (e : Entity) (name : String) : Prop :=
  ∀ err, ¬ e.Bars name err

theorem isAssignable_eq_false_iff (hf : f ∈ e.fields) :
  Update.isAssignable f = false ↔ f = e.key ∨ e.token = some f ∨ f.isGenerated = true
  := by
  rw [← isKey_iff hf, ← isToken_iff hf, Update.isAssignable]
  cases f.isKey with
  | true => simp
  | false =>
      cases f.isToken with
      | true => simp
      | false => simp

/-- A name is barred for the first check that its field fails. -/
theorem bars_iff :
  e.Bars name err
    ↔ match e.field? name with
      | none => err = .unknownField e.name name
      | some f => Update.isAssignable f = false ∧ err = .fixedField e.name name
  := by
  constructor
  · intro h
    cases h with
    | unknown h => rw [field?_eq_none_iff.mpr h]
    | fixed h hfixed =>
        rw [h]
        use (isAssignable_eq_false_iff (mem_of_field? h)).mpr hfixed
  · intro h
    split at h
    · next hnone =>
        rw [h]
        apply Bars.unknown (field?_eq_none_iff.mp hnone)
    · next f hf =>
        obtain ⟨hfixed, rfl⟩ := h
        apply Bars.fixed hf ((isAssignable_eq_false_iff (mem_of_field? hf)).mp hfixed)

theorem admits_iff :
  e.Admits name ↔ Update.addressesAssignable e name = true
  := by
  simp only [Admits, bars_iff, Update.addressesAssignable]
  cases e.field? name with
  | none => simp
  | some f => simp

end Entity

namespace Update

variable {u : Update} {e : Entity} {all : List (Field × Value)} {err : Error}

/-- A run over names is refused for the first of them if this may not be assigned, else it goes on
behind it. -/
theorem assignments_cons (includesNulls : Bool) (done : List (Field × Value)) (p : String × Value)
    (named : List (String × Value)) :
  (∃ err, assignments e includesNulls done (p :: named) = .error err
      ∧ ∀ err', e.Bars p.1 err' ↔ err' = err)
    ∨ e.Admits p.1 ∧ ∃ done', assignments e includesNulls done (p :: named)
      = assignments e includesNulls done' named
  := by
  obtain ⟨name, v⟩ := p
  simp only [Entity.Admits, Entity.bars_iff, assignments]
  cases e.field? name with
  | none => simp
  | some f =>
      cases hf : isAssignable f with
      | false => simp [hf]
      | true =>
          right
          constructor
          · simp [hf]
          · simp only [hf, Bool.not_true, Bool.false_eq_true, if_false]
            split
            · use done
            · use assign f v done

/-- Assignments are refused for the first name that may not be assigned. -/
theorem assignments_eq_error_iff {includesNulls : Bool} {done : List (Field × Value)}
    {named : List (String × Value)} :
  assignments e includesNulls done named = .error err
    ↔ ∃ before name v after, named = before ++ (name, v) :: after
      ∧ (∀ p ∈ before, e.Admits p.1) ∧ e.Bars name err
  := by
  induction named generalizing done with
  | nil => simp [assignments]
  | cons p named ih =>
      rcases assignments_cons includesNulls done p named with
        ⟨err', hrun, hbars⟩ | ⟨hadmits, done', hrun⟩
      · rw [hrun]
        constructor
        · intro h
          obtain rfl := Except.error.inj h
          use [], p.1, p.2, named, rfl
          simp [hbars]
        · rintro ⟨before, name, v, after, hsplit, hbefore, hname⟩
          cases before with
          | nil =>
              obtain ⟨rfl, -⟩ := List.cons.inj hsplit
              rw [(hbars err).mp hname]
          | cons q before =>
              obtain ⟨rfl, -⟩ := List.cons.inj hsplit
              apply absurd ((hbars err').mpr rfl) (hbefore p List.mem_cons_self err')
      · rw [hrun, ih]
        constructor
        · rintro ⟨before, name, v, after, rfl, hbefore, hname⟩
          use p :: before, name, v, after, rfl
          rw [List.forall_mem_cons]
          use ⟨hadmits, hbefore⟩
        · rintro ⟨before, name, v, after, hsplit, hbefore, hname⟩
          cases before with
          | nil =>
              obtain ⟨rfl, -⟩ := List.cons.inj hsplit
              apply absurd hname (hadmits err)
          | cons q before =>
              obtain ⟨rfl, rfl⟩ := List.cons.inj hsplit
              rw [List.forall_mem_cons] at hbefore
              use before, name, v, after, rfl, hbefore.2

/-- An update keeps nothing to assign: each value that it sets is left out as null, or belongs to
the stamp. -/
def KeepsNothing (u : Update) (e : Entity) : Prop :=
  ∀ p ∈ u.sets.fields, (p.2.isNull = true ∧ u.includesNulls = false)
    ∨ ∃ f, e.field? p.1 = some f ∧ u.audits = true ∧ Audit.isEditor f.column = true

/-- Why an update is refused. -/
inductive Refusal (u : Update) (e : Entity) : Error → Prop where
  | barred {before after : List (String × Value)} {name : String} {v : Value} {err : Error}
      (h : u.sets.fields = before ++ (name, v) :: after) (hbefore : ∀ p ∈ before, e.Admits p.1)
      (hbars : e.Bars name err) : Refusal u e err
  | noAudit (hfields : ∀ p ∈ u.sets.fields, e.Admits p.1)
      (h : u.audits = true) (haudited : e.audited = false) :
      Refusal u e (.badEntity e.name .noAudit)
  | nothing (hfields : ∀ p ∈ u.sets.fields, e.Admits p.1)
      (haudited : u.audits = true → e.audited = true)
      (h : u.KeepsNothing e) : Refusal u e .nothingToUpdate
  | missingToken (hfields : ∀ p ∈ u.sets.fields, e.Admits p.1)
      (haudited : u.audits = true → e.audited = true) (hkept : ¬ u.KeepsNothing e)
      {f : Field} (h : e.token = some f) (htoken : u.token = none) :
      Refusal u e (.missingToken e.name)
  | noToken (hfields : ∀ p ∈ u.sets.fields, e.Admits p.1)
      (haudited : u.audits = true → e.audited = true) (hkept : ¬ u.KeepsNothing e)
      {v : Value} (h : e.token = none) (htoken : u.token = some v) :
      Refusal u e (.badEntity e.name .noToken)

theorem exists_assignments_of_admits (h : ∀ p ∈ u.sets.fields, e.Admits p.1) :
  ∃ all, assignments e u.includesNulls [] u.sets.fields = .ok all
  := by
  apply exists_assignments_iff.mpr
  intro p hp
  apply Entity.admits_iff.mp (h p hp)

theorem admits_of_assignments (h : assignments e u.includesNulls [] u.sets.fields = .ok all) :
  ∀ p ∈ u.sets.fields, e.Admits p.1
  := by
  intro p hp
  apply Entity.admits_iff.mpr (exists_assignments_iff.mp ⟨all, h⟩ p hp)

/-- A field is assigned exactly when a value is set under a name of it that is not left out. -/
theorem exists_mem_assignments_iff (h : assignments e u.includesNulls [] u.sets.fields = .ok all)
    (f : Field) :
  (∃ v, (f, v) ∈ all)
    ↔ ∃ p ∈ u.sets.fields, e.field? p.1 = some f ∧ isKept u.includesNulls p.2 = true
  := by
  have hassignable := assignable_of_assignments ⟨by simp, by simp⟩ h
  simp only [mem_iff_valueOf hassignable.nodup, valueOf_assignments h]
  rw [valueOf, List.find?_nil, Option.map_none, Option.or_none, ← Option.isSome_iff_exists,
    List.getLast?_isSome, ne_eq, List.filter_eq_nil_iff]
  simp only [addresses, List.mem_map, List.mem_filter, decide_eq_true_eq, not_forall, not_not]
  constructor
  · rintro ⟨v, ⟨p, ⟨hp, hf⟩, rfl⟩, hkept⟩
    use p
  · rintro ⟨p, hp, hf, hkept⟩
    use p.2, ⟨p, ⟨hp, hf⟩, rfl⟩

theorem kept_eq_nil_iff (h : assignments e u.includesNulls [] u.sets.fields = .ok all) :
  u.kept all = [] ↔ u.KeepsNothing e
  := by
  rw [List.eq_nil_iff_forall_not_mem]
  constructor
  · intro hnone p hp
    obtain ⟨f, hf⟩ : ∃ f, e.field? p.1 = some f := by
      have hadmits := exists_assignments_iff.mp ⟨all, h⟩ p hp
      rw [addressesAssignable, Option.any_eq_true] at hadmits
      obtain ⟨f, hf, -⟩ := hadmits
      use f, hf
    by_cases hkept : isKept u.includesNulls p.2 = true
    · right
      use f, hf
      obtain ⟨v, hv⟩ := (exists_mem_assignments_iff h f).mpr ⟨p, hp, hf, hkept⟩
      have hkeeps := hnone (f, v)
      rw [mem_kept_iff, Keeps] at hkeeps
      simpa [hv] using hkeeps
    · left
      simpa [isKept] using hkept
  · rintro hnothing ⟨f, v⟩ hmem
    rw [mem_kept_iff] at hmem
    obtain ⟨hv, hkeeps⟩ := hmem
    obtain ⟨p, hp, hf, hkept⟩ := (exists_mem_assignments_iff h f).mp ⟨v, hv⟩
    rcases hnothing p hp with ⟨hnull, hexcludes⟩ | ⟨g, hg, haudits, heditor⟩
    · simp [isKept, hnull, hexcludes] at hkept
    · rw [hf] at hg
      obtain rfl := Option.some.inj hg
      rw [hkeeps haudits] at heditor
      contradiction

/-- An update is refused for the first reason that there is. -/
theorem plan_eq_error_iff :
  u.plan e = .error err ↔ u.Refusal e err
  := by
  constructor
  · intro h
    cases hall : assignments e u.includesNulls [] u.sets.fields with
    | error err' =>
        rw [plan, hall] at h
        obtain rfl := Except.error.inj h
        obtain ⟨before, name, v, after, hsplit, hbefore, hbars⟩ := assignments_eq_error_iff.mp hall
        apply Refusal.barred hsplit hbefore hbars
    | ok all =>
        have hfields := admits_of_assignments hall
        rw [plan_of_assignments hall] at h
        split at h
        · next hnoAudit =>
            obtain rfl := Except.error.inj h
            rw [Bool.and_eq_true, Bool.not_eq_true'] at hnoAudit
            apply Refusal.noAudit hfields hnoAudit.1 hnoAudit.2
        · next hnoAudit =>
            have haudited : u.audits = true → e.audited = true := by simpa using hnoAudit
            split at h
            · next hkept =>
                rw [List.isEmpty_iff, kept_eq_nil_iff hall] at hkept
                obtain rfl := Except.error.inj h
                apply Refusal.nothing hfields haudited hkept
            · next hkept =>
                rw [List.isEmpty_iff, kept_eq_nil_iff hall] at hkept
                split at h
                · next htoken hgiven =>
                    obtain rfl := Except.error.inj h
                    apply Refusal.missingToken hfields haudited hkept htoken hgiven
                · next htoken hgiven =>
                    obtain rfl := Except.error.inj h
                    apply Refusal.noToken hfields haudited hkept htoken hgiven
                · contradiction
  · intro h
    cases h with
    | barred h hbefore hbars =>
        rw [plan, assignments_eq_error_iff.mpr ⟨_, _, _, _, h, hbefore, hbars⟩]
        rfl
    | noAudit hfields h haudited =>
        obtain ⟨all, hall⟩ := exists_assignments_of_admits hfields
        rw [plan_of_assignments hall, if_pos (by simp [h, haudited])]
    | nothing hfields haudited h =>
        obtain ⟨all, hall⟩ := exists_assignments_of_admits hfields
        rw [plan_of_assignments hall, if_neg (by simpa using haudited),
          if_pos (List.isEmpty_iff.mpr ((kept_eq_nil_iff hall).mpr h))]
    | missingToken hfields haudited hkept h htoken =>
        obtain ⟨all, hall⟩ := exists_assignments_of_admits hfields
        rw [plan_of_assignments hall, if_neg (by simpa using haudited),
          if_neg (mt List.isEmpty_iff.mp (mt (kept_eq_nil_iff hall).mp hkept)), h, htoken]
    | noToken hfields haudited hkept h htoken =>
        obtain ⟨all, hall⟩ := exists_assignments_of_admits hfields
        rw [plan_of_assignments hall, if_neg (by simpa using haudited),
          if_neg (mt List.isEmpty_iff.mp (mt (kept_eq_nil_iff hall).mp hkept)), h, htoken]

end Update

end BoundSql
