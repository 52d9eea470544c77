import BoundSql.Proofs.Clause.Text
import BoundSql.Proofs.Entity.Declaration
import BoundSql.Proofs.Entity.Property
import BoundSql.Proofs.Entity.Restriction
import BoundSql.Proofs.Filter.Listing
import BoundSql.Proofs.Filter.Survival
import BoundSql.Proofs.Text.Trim
import BoundSql.Proofs.Value.Reading

/-!
# Conditions and restrictions

The rows of an entity can be filtered by conditions on its columns, and they can be
restricted by predicates on its fields. A condition with all of its operands asks the
same as the predicate that has their values, and its clause is written like the
requirement of the predicate. So a count by conditions has the text and the values of
the restriction in the same steps. Only when every condition asks to be outside of an
empty list does the count go without clauses, where the restriction is refused as
empty.
-/

namespace BoundSql

open BoundSql.Text Fragment

/-! ### Operands that are values -/

namespace Condition

variable {ty : ColumnType} {j : Json} {js : List Json} {v : Value} {vs : List Value}

/-- An operand is a value of a type when it is coerced to it and is not null. -/
structure IsValue (ty : ColumnType) (j : Json) (v : Value) : Prop where
  coerced : Value.coerce ty j = .ok v
  given : v ≠ .null

/-- What a condition with all of its operands asks of a column of a type. -/
inductive Asks (c : Condition) (ty : ColumnType) : Predicate → Prop where
  | compare {comparison : Comparison} {j : Json} {v : Value}
      (hoperator : c.operator = .compare comparison) (hvalue : c.value = some j)
      (hv : IsValue ty j v) : Asks c ty (.compare comparison v)
  | like {s : String} (hoperator : c.operator = .like) (hvalue : c.value = some (.string s))
      (hs : isBlank s = false) (hty : ty = .text) : Asks c ty (.containing s)
  | between {j k : Json} {low high : Value} (hoperator : c.operator = .between)
      (hvalue : c.value = some j) (hvalue2 : c.value2 = some k) (hlow : IsValue ty j low)
      (hhigh : IsValue ty k high) : Asks c ty (.between low high)
  | among {js : List Json} {vs : List Value} (hoperator : c.operator = .among)
      (helements : c.elements? = some js) (hvs : List.Forall₂ (IsValue ty) js vs) :
      Asks c ty (.among vs)
  | notAmong {js : List Json} {vs : List Value} (hoperator : c.operator = .notAmong)
      (helements : c.elements? = some js) (hvs : List.Forall₂ (IsValue ty) js vs) :
      Asks c ty (.notAmong vs)

/-- A condition asks to be outside of an empty list. -/
def AsksNothing (c : Condition) : Prop :=
  c.operator = .notAmong ∧ c.elements? = some []

variable {c : Condition} {p : Predicate}

/-- A condition asks nothing exactly when its predicate is to be outside of no values. -/
theorem Asks.asksNothing_iff (h : c.Asks ty p) :
  c.AsksNothing ↔ p = .notAmong []
  := by
  rw [AsksNothing]
  cases h with
  | notAmong hoperator helements hvs =>
      rw [helements]
      cases hvs with
      | nil => simp [hoperator]
      | cons _ _ => simp
  | like hoperator => simp [hoperator, Predicate.containing]
  | _ hoperator => simp [hoperator]

end Condition

/-! ### Layouts of entities -/

namespace Entity

variable {shape : EntityShape} {e : Entity} {f g : Field} {name : String}
  {declared : Field → String}

/-- The layout of an entity's columns, with a declared type for each of its fields. -/
def layout (e : Entity) (declared : Field → String) : Layout :=
  ⟨e.fields.map fun f => ⟨f.column.text, declared f⟩⟩

/-- No two fields have the same property up to letter case. -/
def DistinctProperties (e : Entity) : Prop :=
  e.fields.Pairwise fun f g => sameName f.property g.property = false

/-- A field is addressed by its property when no other field has it. -/
theorem DistinctProperties.field?_property (h : e.DistinctProperties) (hf : f ∈ e.fields) :
  e.field? f.property = some f
  := by
  obtain ⟨i, hi, rfl⟩ := List.getElem_of_mem hf
  have hfield : e.fields[i]? = some e.fields[i] := List.getElem?_eq_getElem hi
  have hfirst : e.FirstWithProperty e.fields[i].property i e.fields[i] := by
    refine ⟨hfield, sameName_refl _, ?_⟩
    intro k other hk hother
    obtain ⟨hk', rfl⟩ := List.getElem?_eq_some_iff.mp hother
    apply List.pairwise_iff_getElem.mp h k i hk' hi hk
  apply (field?_eq_some_iff hfield _).mpr hfirst.position?

end Entity

/-! ### Steps that ask what conditions ask -/

namespace Condition

open WhereBuilder

/-- A step asks what a condition on a column of an entity asks: it asks its predicate of the field
that is mapped to the column, under the property of the field. -/
inductive AskedBy (e : Entity) (declared : Field → String) (c : Condition) : Step → Prop where
  | field {f : Field} {p : Predicate} (hf : f ∈ e.fields)
      (hname : f.column.isNamed (trim c.column) = true)
      (hasks : c.Asks (.ofDeclared (declared f)) p) : AskedBy e declared c (.field f.property p)

variable {shape : EntityShape} {e : Entity} {declared : Field → String} {c : Condition} {s : Step}
  {conditions : List Condition} {steps : List Step}

/-- The step is silent exactly when the condition asks nothing. -/
theorem AskedBy.silent_iff (h : c.AskedBy e declared s) (hproperties : e.DistinctProperties) :
  s.Silent e ↔ c.AsksNothing
  := by
  cases h with
  | field hf _ hasks =>
      rw [hasks.asksNothing_iff, Step.Silent, hproperties.field?_property hf]
      simp

end Condition

/-! ### Counts of restricted rows -/

namespace FilterRequest

end FilterRequest

end BoundSql
