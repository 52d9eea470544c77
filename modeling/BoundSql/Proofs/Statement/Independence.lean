import BoundSql.Proofs.Filter.Survival
import BoundSql.Proofs.Statement.Numbering

/-!
# Independence of values

The text of a statement does not depend on the values that are bound in it.
Conditions that differ in their operands alone have clauses of the same outline,
provided that they survive alike and with equally many operands. Bags of the
same columns have statements of the same text, provided that their keys are null
in the same places. All these texts are made of the characters of names and a
few signs.
-/

namespace BoundSql

open Fragment

/-! ### Conditions without their operands -/

/-- The clause of an operator for a number of operands, with nothing for their values. -/
def Operator.unfilled (column : Ident) (ty : ColumnType) (n : Nat) : Operator → Clause
  | .unset => .never
  | .compare comparison => .compare column comparison .null
  | .like => .like column (ty != .text) ""
  | .between => .between column .null .null
  | .among => if n = 0 then .never else .among column (List.replicate n .null)
  | .notAmong => .notAmong column (List.replicate n .null)

namespace Condition

/-- The condition without its operands. -/
def withoutOperands (c : Condition) : Condition :=
  { c with value := none, value2 := none, values := none }

/-- How many operands of a condition are given, if it survives. -/
def arity? (scope : Scope) (c : Condition) : Option Nat :=
  (c.placed? scope).bind fun (_, ty) => if c.remains ty then some (c.given ty).length else none

/-- The clause of a condition for a number of operands, with nothing for their values. -/
def unfilled? (scope : Scope) : Condition × Option Nat → Option Clause
  | (c, arity) => arity.bind fun n =>
    (c.placed? scope).map fun (column, ty) => c.operator.unfilled column ty n

variable {scope : Scope} {c : Condition}

/-- Of the operands only their number shows in the outline of a clause. -/
theorem Reads.outline_fragment {column : Ident} {ty : ColumnType} {clause : Clause}
    (h : c.Reads column ty clause) :
  clause.fragment.outline
    = (c.operator.unfilled column ty (c.given ty).length).fragment.outline
  := by
  cases h with
  | compare hoperator hvalues => simp [hoperator, Operator.unfilled, Clause.fragment]
  | like hoperator hgiven hsearch => simp [hoperator, Operator.unfilled, Clause.fragment]
  | between hoperator hvalues => simp [hoperator, Operator.unfilled, Clause.fragment]
  | never hoperator hgiven => simp [hoperator, Operator.unfilled, hgiven]
  | @among vs hoperator hvalues hne =>
      have hlength : vs.length ≠ 0 := by simpa using hne
      simp [hoperator, Operator.unfilled, hvalues.length_eq, hlength, Clause.fragment,
        outline_boundList]
  | notAmong hoperator hvalues hne =>
      simp [hoperator, Operator.unfilled, hvalues.length_eq, Clause.fragment, outline_boundList]

theorem unfilled?_of_readsIn (hsurvives : c.survives scope = true) {clause : Clause}
    (h : c.ReadsIn scope clause) :
  ∃ unfilled, unfilled? scope (c.withoutOperands, c.arity? scope) = some unfilled
    ∧ clause.fragment.outline = unfilled.fragment.outline
  := by
  obtain ⟨column, ty, hplaced, hreads⟩ := h
  have hremains : c.remains ty = true := by
    rw [survives, hplaced] at hsurvives
    apply hsurvives
  have harity : c.arity? scope = some (c.given ty).length := by
    simp only [arity?, hplaced, Option.bind_some, hremains, if_true]
  have hsame : c.withoutOperands.placed? scope = some (column, ty) := hplaced
  use c.operator.unfilled column ty (c.given ty).length
  constructor
  · rw [unfilled?, harity, Option.bind_some, hsame]
    rfl
  · apply hreads.outline_fragment

theorem arity?_of_not_survives (h : c.survives scope = false) :
  c.arity? scope = none
  := by
  rw [survives] at h
  rw [arity?]
  cases hplaced : c.placed? scope with
  | none => rfl
  | some place =>
      obtain ⟨column, ty⟩ := place
      have hremains : c.remains ty = false := by
        rw [hplaced] at h
        apply h
      simp only [Option.bind_some, hremains, Bool.false_eq_true, if_false]

/-- The outlines of the clauses of conditions come from the conditions without their operands and
from the numbers of those. -/
theorem outlines_of_clauses {conditions : List Condition} {clauses : List Clause}
    (h : Condition.clauses scope conditions = .ok clauses) :
  clauses.map (·.fragment.outline)
    = (((conditions.map withoutOperands).zip (conditions.map (arity? scope))).filterMap
      (unfilled? scope)).map (·.fragment.outline)
  := by
  have hreads := reads_of_clauses h
  clear h
  induction conditions generalizing clauses with
  | nil =>
      obtain rfl := List.forall₂_nil_left_iff.mp hreads
      rfl
  | cons c conditions ih =>
      rw [List.map_cons, List.map_cons, List.zip_cons_cons]
      cases hsurvives : c.survives scope with
      | false =>
          rw [List.filter_cons_of_neg (by simp [hsurvives])] at hreads
          have hnone : unfilled? scope (c.withoutOperands, c.arity? scope) = none := by
            rw [arity?_of_not_survives hsurvives]
            rfl
          rw [List.filterMap_cons_none hnone, ih hreads]
      | true =>
          rw [List.filter_cons_of_pos hsurvives] at hreads
          obtain ⟨clause, rest, hclause, hrest, rfl⟩ := List.forall₂_cons_left_iff.mp hreads
          obtain ⟨unfilled, hsome, houtline⟩ := unfilled?_of_readsIn hsurvives hclause
          rw [List.filterMap_cons_some hsome, List.map_cons, List.map_cons, houtline, ih hrest]

/-- Conditions that differ in their operands alone, and of which as many are given, have clauses of
the same outlines. -/
theorem outlines_congr {conditions conditions' : List Condition} {clauses clauses' : List Clause}
    (hsame : conditions.map withoutOperands = conditions'.map withoutOperands)
    (harity : conditions.map (arity? scope) = conditions'.map (arity? scope))
    (h : Condition.clauses scope conditions = .ok clauses)
    (h' : Condition.clauses scope conditions' = .ok clauses') :
  clauses.map (·.fragment.outline) = clauses'.map (·.fragment.outline)
  := by
  rw [outlines_of_clauses h, outlines_of_clauses h', hsame, harity]

end Condition

/-! ### Requests without their operands -/

namespace FilterRequest

/-- The request without the operands of its conditions. -/
def withoutOperands (request : FilterRequest) : FilterRequest :=
  { request with conditions := request.conditions.map Condition.withoutOperands }

/-- How many operands are given in the conditions that survive. -/
def arities (scope : Scope) (request : FilterRequest) : List (Option Nat) :=
  request.conditions.map (Condition.arity? scope)

variable {request request' : FilterRequest} {s s' : Statement}

theorem sql_select_congr {table : Ident} {layout : Option Layout}
    (hsame : request.withoutOperands = request'.withoutOperands)
    (harity : request.arities (.ofLayout? layout) = request'.arities (.ofLayout? layout))
    (h : select table request layout = .ok s) (h' : select table request' layout = .ok s') :
  s.sql = s'.sql
  := by
  obtain ⟨hconditions, horder, hpaging⟩ := mk.inj hsame
  obtain ⟨clauses, hclauses, rfl⟩ := listing_of_select h
  obtain ⟨clauses', hclauses', rfl⟩ := listing_of_select h'
  have houtlines := Condition.outlines_congr hconditions harity hclauses hclauses'
  rw [page?, page?, horder, hpaging]
  apply sql_eq_of_outline (outline_listing rfl houtlines _ _)

theorem sql_count_congr {table : Ident} {conditions conditions' : List Condition}
    {layout : Option Layout}
    (hsame : conditions.map Condition.withoutOperands = conditions'.map Condition.withoutOperands)
    (harity : conditions.map (Condition.arity? (.ofLayout? layout))
      = conditions'.map (Condition.arity? (.ofLayout? layout)))
    (h : count table conditions layout = .ok s) (h' : count table conditions' layout = .ok s') :
  s.sql = s'.sql
  := by
  obtain ⟨clauses, hclauses, rfl⟩ := counting_of_count h
  obtain ⟨clauses', hclauses', rfl⟩ := counting_of_count h'
  have houtlines := Condition.outlines_congr hsame harity hclauses hclauses'
  apply sql_eq_of_outline (outline_rowsOf _ rfl houtlines)

end FilterRequest

namespace FunctionCall

open FilterRequest

variable {c c' : FunctionCall} {s s' : Statement}

/-- Calls of the same function have the same outline, whatever their arguments are. -/
theorem outline_callFragment_inputs {signature : FunctionSignature} {args args' : ParameterBag}
    {values values' : List Value} (h : inputs args signature.inputs = .ok values)
    (h' : inputs args' signature.inputs = .ok values') :
  (callFragment signature.name values).outline = (callFragment signature.name values').outline
  := by
  apply outline_callFragment
  rw [length_of_inputs h, length_of_inputs h']

theorem sql_select_congr (hsignature : c.signature = c'.signature)
    (hallowed : c.orderAllowed = c'.orderAllowed)
    (hsame : c.request.withoutOperands = c'.request.withoutOperands)
    (harity : c.request.arities (.layout c.signature.outputs)
      = c'.request.arities (.layout c.signature.outputs))
    (h : c.select = .ok s) (h' : c'.select = .ok s') :
  s.sql = s'.sql
  := by
  obtain ⟨hconditions, horder, hpaging⟩ := FilterRequest.mk.inj hsame
  obtain ⟨values, clauses, hvalues, hclauses, rfl⟩ := listing_of_select h
  obtain ⟨values', clauses', hvalues', hclauses', rfl⟩ := listing_of_select h'
  rw [← hsignature] at hvalues' hclauses'
  have houtlines := Condition.outlines_congr hconditions harity hclauses hclauses'
  rw [page?, page?, orderScope, orderScope, ← hsignature, ← hallowed, horder, hpaging]
  apply sql_eq_of_outline
  apply outline_listing (outline_callFragment_inputs hvalues hvalues') houtlines

theorem sql_count_congr (hsignature : c.signature = c'.signature)
    (hsame : c.request.withoutOperands = c'.request.withoutOperands)
    (harity : c.request.arities (.layout c.signature.outputs)
      = c'.request.arities (.layout c.signature.outputs))
    (h : c.count = .ok s) (h' : c'.count = .ok s') :
  s.sql = s'.sql
  := by
  obtain ⟨hconditions, _⟩ := FilterRequest.mk.inj hsame
  obtain ⟨values, clauses, hvalues, hclauses, rfl⟩ := counting_of_count h
  obtain ⟨values', clauses', hvalues', hclauses', rfl⟩ := counting_of_count h'
  rw [← hsignature] at hvalues' hclauses'
  have houtlines := Condition.outlines_congr hconditions harity hclauses hclauses'
  rw [← hsignature]
  apply sql_eq_of_outline
  apply outline_rowsOf _ (outline_callFragment_inputs hvalues hvalues') houtlines

end FunctionCall

/-! ### Bags without their values -/

namespace AdHoc

variable (table : Ident) {values values' sets sets' keys keys' : FieldBag}

theorem sql_insert_congr (h : values.names = values'.names) :
  (insert table values).map Statement.sql = (insert table values').map Statement.sql
  := by
  rw [← sql_insert_mapValues table fun _ => .null, FieldBag.mapValues_null_congr h,
    sql_insert_mapValues]

theorem sql_insertReturning_congr (h : values.names = values'.names) (keyColumn : String) :
  (insertReturning table values keyColumn).map Statement.sql
    = (insertReturning table values' keyColumn).map Statement.sql
  := by
  rw [← sql_insertReturning_mapValues table fun _ => .null, FieldBag.mapValues_null_congr h,
    sql_insertReturning_mapValues]

theorem sql_update_congr (hsets : sets.names = sets'.names) (hkeys : keys.nulls = keys'.nulls) :
  (update table sets keys).map Statement.sql = (update table sets' keys').map Statement.sql
  := by
  rw [← sql_update_mapValues table (fun _ => .null) FieldBag.isNull_masked,
    FieldBag.mapValues_null_congr hsets, FieldBag.mapValues_masked_congr hkeys,
    sql_update_mapValues table _ FieldBag.isNull_masked]

theorem sql_delete_congr (h : keys.nulls = keys'.nulls) :
  (delete table keys).map Statement.sql = (delete table keys').map Statement.sql
  := by
  rw [← sql_delete_mapValues table FieldBag.isNull_masked, FieldBag.mapValues_masked_congr h,
    sql_delete_mapValues table FieldBag.isNull_masked]

theorem sql_exists?_congr (h : keys.nulls = keys'.nulls) :
  (exists? table keys).map Statement.sql = (exists? table keys').map Statement.sql
  := by
  rw [← sql_exists?_mapValues table FieldBag.isNull_masked, FieldBag.mapValues_masked_congr h,
    sql_exists?_mapValues table FieldBag.isNull_masked]

end AdHoc

/-! ### Texts and values -/

namespace Requested

variable {s : Statement}

theorem mem_sql (h : Requested s) :
  ∀ c ∈ s.sql.toList, c = '$' ∨ isWordingChar c = true
  := by
  obtain ⟨f, hplain, rfl⟩ := h.plain_and_legible.1
  apply hplain.mem_sql

/-- No quote, no semicolon, no hyphen, no slash and no backslash. -/
theorem not_mem_sql (h : Requested s) :
  ∀ c ∈ "'\";-/\\".toList, c ∉ s.sql.toList
  := by
  intro c hc hmem
  have hsigns : "'\";-/\\".toList.all (fun c => c != '$' && !isWordingChar c) = true := by decide
  have hsign := List.all_eq_true.mp hsigns c hc
  rcases h.mem_sql c hmem with rfl | hword
  · contradiction
  · simp [hword] at hsign

/-- Values have no influence on the texts that are requested. Requests that differ in the operands
of their conditions alone have the same text, provided that the same conditions survive and with
equally many operands; so have the requests on calls of a function, whatever the arguments are. Bags
of the same columns have the same text, provided that the keys are null in the same places. All
these texts are made of the characters of names and a few signs. -/
theorem sql_independent_of_values :
  (∀ (table : Ident) (layout : Option Layout) (request request' : FilterRequest) (s s' : Statement),
      request.withoutOperands = request'.withoutOperands →
      request.arities (.ofLayout? layout) = request'.arities (.ofLayout? layout) →
      FilterRequest.select table request layout = .ok s →
      FilterRequest.select table request' layout = .ok s' → s.sql = s'.sql)
    ∧ (∀ (table : Ident) (layout : Option Layout) (conditions conditions' : List Condition)
      (s s' : Statement),
      conditions.map Condition.withoutOperands = conditions'.map Condition.withoutOperands →
      conditions.map (Condition.arity? (.ofLayout? layout))
        = conditions'.map (Condition.arity? (.ofLayout? layout)) →
      FilterRequest.count table conditions layout = .ok s →
      FilterRequest.count table conditions' layout = .ok s' → s.sql = s'.sql)
    ∧ (∀ (c c' : FunctionCall) (s s' : Statement), c.signature = c'.signature →
      c.orderAllowed = c'.orderAllowed → c.request.withoutOperands = c'.request.withoutOperands →
      c.request.arities (.layout c.signature.outputs)
        = c'.request.arities (.layout c.signature.outputs) →
      (c.select = .ok s → c'.select = .ok s' → s.sql = s'.sql)
        ∧ (c.count = .ok s → c'.count = .ok s' → s.sql = s'.sql))
    ∧ (∀ (table : Ident) (values values' : FieldBag) (keyColumn : String),
      values.names = values'.names →
      (AdHoc.insert table values).map Statement.sql = (AdHoc.insert table values').map Statement.sql
        ∧ (AdHoc.insertReturning table values keyColumn).map Statement.sql
          = (AdHoc.insertReturning table values' keyColumn).map Statement.sql)
    ∧ (∀ (table : Ident) (sets sets' keys keys' : FieldBag), sets.names = sets'.names →
      keys.nulls = keys'.nulls →
      (AdHoc.update table sets keys).map Statement.sql
          = (AdHoc.update table sets' keys').map Statement.sql
        ∧ (AdHoc.delete table keys).map Statement.sql = (AdHoc.delete table keys').map Statement.sql
        ∧ (AdHoc.exists? table keys).map Statement.sql
          = (AdHoc.exists? table keys').map Statement.sql)
    ∧ ∀ s, Requested s →
      (∀ c ∈ s.sql.toList, c = '$' ∨ isWordingChar c = true)
        ∧ ∀ c ∈ "'\";-/\\".toList, c ∉ s.sql.toList
  := by
  refine ⟨?_, ?_, ?_, ?_, ?_, ?_⟩
  · intro table layout request request' s s' hsame harity h h'
    apply FilterRequest.sql_select_congr hsame harity h h'
  · intro table layout conditions conditions' s s' hsame harity h h'
    apply FilterRequest.sql_count_congr hsame harity h h'
  · intro c c' s s' hsignature hallowed hsame harity
    use FunctionCall.sql_select_congr hsignature hallowed hsame harity
    apply FunctionCall.sql_count_congr hsignature hsame harity
  · intro table values values' keyColumn h
    use AdHoc.sql_insert_congr table h, AdHoc.sql_insertReturning_congr table h keyColumn
  · intro table sets sets' keys keys' hsets hkeys
    use AdHoc.sql_update_congr table hsets hkeys, AdHoc.sql_delete_congr table hkeys
    apply AdHoc.sql_exists?_congr table hkeys
  · intro s h
    use h.mem_sql, h.not_mem_sql

/-- A search for a name among the rows of a number. -/
def search (name number : String) : FilterRequest where
  conditions := [{ column := "name", operator := .like, value := some (.string name) },
    { column := "qty", operator := .among, values := some [.string number, .null] }]

/-- The statement of a search. -/
def searching (name number : String) : Statement where
  sql := "SELECT * FROM lot WHERE name LIKE $1 AND qty IN ($2)"
  params := [.text (Clause.containing name), .text number]

/-- A name that looks like the end of a statement leaves no trace in the text. -/
theorem sql_independent_of_values_search :
  FilterRequest.select ⟨"lot", by decide⟩ (search "a" "1") none = .ok (searching "a" "1")
    ∧ FilterRequest.select ⟨"lot", by decide⟩ (search "'; DROP TABLE lot; --" "2") none
      = .ok (searching "'; DROP TABLE lot; --" "2")
    ∧ (searching "a" "1").sql = (searching "'; DROP TABLE lot; --" "2").sql
  := by
  have hselect : FilterRequest.select ⟨"lot", by decide⟩ (search "a" "1") none
      = .ok (searching "a" "1") := by
    rfl
  have hselect' : FilterRequest.select ⟨"lot", by decide⟩ (search "'; DROP TABLE lot; --" "2") none
      = .ok (searching "'; DROP TABLE lot; --" "2") := by
    rfl
  have harity : (search "a" "1").arities .any
      = (search "'; DROP TABLE lot; --" "2").arities .any := by
    decide +kernel
  obtain ⟨hindependent, _⟩ := sql_independent_of_values
  use hselect, hselect'
  apply hindependent ⟨"lot", by decide⟩ none (search "a" "1")
    (search "'; DROP TABLE lot; --" "2") _ _ rfl harity hselect hselect'

end Requested

end BoundSql
