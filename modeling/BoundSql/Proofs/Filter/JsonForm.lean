import BoundSql.Filter.Compile
import Mathlib.Tactic.Use

/-!
# Filter requests as JSON

A filter request is read back from its JSON form with every part that it has; only
an operand that is null counts as missing. Conditions make no difference between the
two, so the request that is read back is compiled like the one that was written.
-/

namespace BoundSql

/-! ### Parts that may be missing -/

namespace Json

/-- An operand that is null is missing. -/
def present (operand : Option Json) : Option Json :=
  operand.filter (!·.isNull)

variable {α β : Type}

theorem asOptional?_getD (operand : Option Json) :
  asOptional? some (operand.getD .null) = some (present operand)
  := by
  cases operand with
  | none => rfl
  | some j =>
      cases j with
      | _ => rfl

/-- A part that is never written as null is read back, or it is missing. -/
theorem asOptional?_elim {item : Json → Option α} {write : α → Json}
    (hitem : ∀ a, item (write a) = some a) (hwrite : ∀ a, write a ≠ .null) (part : Option α) :
  asOptional? item (part.elim .null write) = some part
  := by
  cases part with
  | none => rfl
  | some a =>
      rw [Option.elim_some, asOptional?]
      · rw [hitem]
        rfl
      · apply hwrite a

/-- A list is read back when each of its items is. -/
theorem asList?_map {item : Json → Option β} {write : α → Json} {read : α → β}
    (h : ∀ a, item (write a) = some (read a)) (as : List α) :
  asList? item (.array (as.map write)) = some (as.map read)
  := by
  rw [asList?]
  induction as with
  | nil => rfl
  | cons a as ih =>
      rw [List.map_cons, List.mapM_cons, h, ih]
      rfl

theorem asList?_some (items : List Json) :
  asList? some (.array items) = some items
  := by
  have h : ∀ j : Json, some (id j) = some (id j) := fun _ => rfl
  have hlist := asList?_map h items
  rw [List.map_id] at hlist
  apply hlist

theorem asInt64?_ofInt64 (n : Int64) :
  asInt64? (.number (.ofInt64 n)) = some n
  := int64Of?_toInt n

end Json

/-! ### Reading back -/

theorem Operator.ofName?_name (operator : Operator) :
  ofName? operator.name = some operator
  := by
  cases operator with
  | compare comparison =>
      cases comparison with
      | _ => rfl
  | _ => rfl

theorem Direction.ofName?_name (direction : Direction) :
  ofName? direction.name = some direction
  := by
  cases direction with
  | _ => rfl

namespace Condition

/-- The condition without the operands that are null. -/
def withoutNulls (c : Condition) : Condition :=
  { c with value := Json.present c.value, value2 := Json.present c.value2 }

theorem ofJson?_toJson (c : Condition) :
  ofJson? c.toJson = some c.withoutNulls
  := by
  have hvalues := Json.asOptional?_elim Json.asList?_some (by simp) c.values
  have hstring : ∀ s, Json.asString? (.string s) = some s := fun _ => rfl
  have htype := Json.asOptional?_elim hstring (by simp) c.declaredType
  simp [ofJson?, toJson, Json.record?, Record.withDefault, Record.optional, Fields.find?,
    Json.asString?, Json.asChoice?, Operator.ofName?_name, Json.asOptional?_getD, hvalues, htype,
    withoutNulls]

end Condition

theorem OrderTerm.ofJson?_toJson (t : OrderTerm) :
  ofJson? t.toJson = some t
  := by
  simp [ofJson?, toJson, Json.record?, Record.required, Record.withDefault, Fields.find?,
    Json.asString?, Json.asChoice?, Direction.ofName?_name]

theorem Paging.ofJson?_toJson (p : Paging) :
  ofJson? p.toJson = some p
  := by
  have hnumber := Json.asOptional?_elim Json.asInt64?_ofInt64 (by simp)
  simp [ofJson?, toJson, Json.record?, Record.withDefault, Record.optional, Fields.find?, hnumber]

namespace FilterRequest

/-- The request without the operands that are null. -/
def withoutNulls (r : FilterRequest) : FilterRequest :=
  { r with conditions := r.conditions.map Condition.withoutNulls }

/-- A request is read back without the operands that are null. -/
theorem ofJson?_toJson (r : FilterRequest) :
  ofJson? r.toJson = some r.withoutNulls
  := by
  have hconditions := Json.asList?_map Condition.ofJson?_toJson r.conditions
  have hterm : ∀ t : OrderTerm, OrderTerm.ofJson? t.toJson = some (id t) := OrderTerm.ofJson?_toJson
  have horder := Json.asList?_map hterm r.order
  have hpaging := Json.asOptional?_elim Paging.ofJson?_toJson (by simp [Paging.toJson]) r.paging
  simp [ofJson?, toJson, Json.record?, Record.withDefault, Record.optional, Fields.find?,
    hconditions, horder, hpaging, withoutNulls]

end FilterRequest

/-! ### Compiling what is read back -/

namespace Condition

/-- An operand that is null is skipped as if it were missing. -/
theorem operand_present (column : Ident) (ty : ColumnType) (o : Option Json) :
  operand column ty (Json.present o) = operand column ty o
  := by
  cases o with
  | none => rfl
  | some j =>
      cases j with
      | _ => rfl

/-- Nothing is to be looked for in null. -/
theorem searchText?_present (o : Option Json) :
  searchText? (Json.present o) = searchText? o
  := by
  cases o with
  | none => rfl
  | some j =>
      cases j with
      | _ => rfl

/-- Null is no list of elements. -/
theorem elements?_withoutNulls (c : Condition) :
  c.withoutNulls.elements? = c.elements?
  := by
  obtain ⟨column, operator, value, value2, values, declaredType⟩ := c
  cases values with
  | some js => rfl
  | none =>
      cases value with
      | none => rfl
      | some j =>
          cases j with
          | _ => rfl

theorem clauseOn_withoutNulls (c : Condition) (column : Ident) (ty : ColumnType) :
  c.withoutNulls.clauseOn column ty = c.clauseOn column ty
  := by
  have hvalue : operand column ty c.withoutNulls.value = operand column ty c.value :=
    operand_present column ty c.value
  have hvalue2 : operand column ty c.withoutNulls.value2 = operand column ty c.value2 :=
    operand_present column ty c.value2
  have hsearch : searchText? c.withoutNulls.value = searchText? c.value :=
    searchText?_present c.value
  have hoperator : c.withoutNulls.operator = c.operator := rfl
  simp only [clauseOn, hoperator, hvalue, hvalue2, hsearch, elements?_withoutNulls]

/-- In any scope a condition is the same clause without the operands that are null. -/
theorem clause_withoutNulls (scope : Scope) (c : Condition) :
  c.withoutNulls.clause scope = c.clause scope
  := by
  simp only [clause, clauseOn_withoutNulls]
  rfl

theorem clauses_withoutNulls (scope : Scope) (conditions : List Condition) :
  clauses scope (conditions.map withoutNulls) = clauses scope conditions
  := by
  induction conditions with
  | nil => rfl
  | cons c conditions ih => rw [List.map_cons, clauses, clauses, clause_withoutNulls, ih]

end Condition

/-- A request is read back from its JSON form as it is, apart from operands that are null, which are
missing then. On every table and in every layout both have the same listing, or the same error. -/
theorem FilterRequest.select_of_toJson (r : FilterRequest) :
  ofJson? r.toJson = some r.withoutNulls
    ∧ ∀ (table : Ident) (layout : Option Layout),
      select table r.withoutNulls layout = select table r layout
  := by
  use r.ofJson?_toJson
  intro table layout
  simp only [select, withoutNulls, Condition.clauses_withoutNulls]

end BoundSql
