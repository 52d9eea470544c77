import BoundSql.Proofs.Clause.Text
import BoundSql.Proofs.Filter.Survival
import BoundSql.Proofs.Filter.Total
import BoundSql.Proofs.Value.Family

/-!
# Types of bound values

A clause binds values. What a condition binds on a column of a type is of that
type, and the pattern of a search is a text. So the values of a listing and of
a count are of the types of the columns that their conditions are placed on.
-/

namespace BoundSql

open Fragment

/-! ### Values of conditions -/

namespace Condition

/-- A condition binds values in a scope: those of a search are texts, and all others are of the type
of the column that the condition is placed on. None of them is null. -/
def BindsIn (scope : Scope) (c : Condition) (vs : List Value) : Prop :=
  ∃ column ty, c.placed? scope = some (column, ty)
    ∧ ∀ v ∈ vs, v.type? = some (if c.operator = .like then .text else ty)

/-- The values of operands are of the type of the column. -/
theorem Valued.type? {c : Condition} {ty : ColumnType} {vs : List Value} (h : c.Valued ty vs)
    (hlike : c.operator ≠ .like) :
  ∀ v ∈ vs, v.type? = some ty
  := by
  rw [Valued, given_eq_of_ne_like hlike] at h
  intro v hv
  obtain ⟨i, hi, rfl⟩ := List.getElem_of_mem hv
  have hi' : i < (c.taken.filter (!isSkipped ty ·)).length := by
    rw [h.length_eq]
    apply hi
  have hcoerce := h.get hi' hi
  have hgiven := List.get_mem (c.taken.filter (!isSkipped ty ·)) ⟨i, hi'⟩
  rcases Value.type?_of_coerce hcoerce with htype | ⟨hnull, _⟩
  · apply htype
  · -- null is skipped
    rw [hnull] at hgiven
    simp [isSkipped, Json.isNull] at hgiven

theorem Reads.type?_of_mem_values {c : Condition} {column : Ident} {ty : ColumnType}
    {clause : Clause} (h : c.Reads column ty clause) :
  ∀ v ∈ clause.values, v.type? = some (if c.operator = .like then .text else ty)
  := by
  have hvalued : ∀ {vs}, c.operator ≠ .like → c.Valued ty vs →
      ∀ v ∈ vs, v.type? = some (if c.operator = .like then .text else ty) := by
    intro vs hlike hvalues
    rw [if_neg hlike]
    apply hvalues.type? hlike
  cases h with
  | compare hoperator hvalues => apply hvalued (by simp [hoperator]) hvalues
  | like hoperator _ _ =>
      rw [if_pos hoperator, Clause.values, List.forall_mem_singleton]
      rfl
  | between hoperator hvalues => apply hvalued (by simp [hoperator]) hvalues
  | among hoperator hvalues _ => apply hvalued (by simp [hoperator]) hvalues
  | never _ _ => simp [Clause.values]
  | notAmong hoperator hvalues _ => apply hvalued (by simp [hoperator]) hvalues

theorem ReadsIn.bindsIn {scope : Scope} {c : Condition} {clause : Clause}
    (h : c.ReadsIn scope clause) :
  c.BindsIn scope clause.values
  := by
  obtain ⟨column, ty, hplaced, hreads⟩ := h
  use column, ty, hplaced, hreads.type?_of_mem_values

/-- The values of a statement's conditions: those of its clauses in order. -/
def Binds (scope : Scope) (conditions : List Condition) (params : List Value) : Prop :=
  ∃ clauses : List Clause, params = clauses.flatMap Clause.values
    ∧ List.Forall₂ (fun c clause => c.ReadsIn scope clause ∧ c.BindsIn scope clause.values)
      (conditions.filter (survives scope)) clauses

theorem binds_of_clauses {scope : Scope} {conditions : List Condition} {clauses : List Clause}
    (h : Condition.clauses scope conditions = .ok clauses) :
  Binds scope conditions (Clause.whereFragment clauses).params
  := by
  use clauses, Clause.params_whereFragment clauses
  apply (reads_of_clauses h).imp
  intro c clause hreads
  apply And.intro hreads hreads.bindsIn

end Condition

namespace FilterRequest

theorem params_of_select {table : Ident} {request : FilterRequest} {layout : Option Layout}
    {s : Statement} (h : select table request layout = .ok s) :
  ∃ params, s.params = params ++ pageValues request.page?
    ∧ Condition.Binds (.ofLayout? layout) request.conditions params
  := by
  obtain ⟨clauses, hclauses, rfl⟩ := listing_of_select h
  use (Clause.whereFragment clauses).params
  constructor
  · apply (params_append _ _).trans
    rw [params_rowsOf, params_cut]
    rfl
  · apply Condition.binds_of_clauses hclauses

theorem params_of_count {table : Ident} {conditions : List Condition} {layout : Option Layout}
    {s : Statement} (h : count table conditions layout = .ok s) :
  Condition.Binds (.ofLayout? layout) conditions s.params
  := by
  obtain ⟨clauses, hclauses, rfl⟩ := counting_of_count h
  have hparams : (counting (ident table) clauses).build.params
      = (Clause.whereFragment clauses).params := params_rowsOf _ _ _
  rw [hparams]
  apply Condition.binds_of_clauses hclauses

/-- What is coerced or converted to a family is of it, and only null becomes null. So the conditions
of a listing and of a count bind values of the types of their columns, and texts for searches;
behind them a listing binds its page. -/
theorem params_typed :
  (∀ ty j w, Value.coerce ty j = .ok w → w.type? = some ty ∨ j = .null ∧ w = .null)
    ∧ (∀ ty v w, Value.convert ty v = .ok w →
      w.type? = some ty ∨ w = .null ∧ (v = .null ∨ v = .json .null))
    ∧ (∀ table request layout s, select table request layout = .ok s →
      ∃ params, s.params = params ++ pageValues request.page?
        ∧ Condition.Binds (.ofLayout? layout) request.conditions params)
    ∧ ∀ table conditions layout s, count table conditions layout = .ok s →
      Condition.Binds (.ofLayout? layout) conditions s.params
  := ⟨fun _ _ _ => Value.type?_of_coerce, fun _ _ _ => Value.type?_of_convert,
    fun _ _ _ _ => params_of_select, fun _ _ _ _ => params_of_count⟩

/-- A text to be searched for. -/
def labelled : Condition where
  column := "label"
  operator := .like
  value := some (.string "A")

/-- A list of a whole number and a null. -/
def counted : Condition where
  column := "qty"
  operator := .among
  values := some [.string "5", .null]
  declaredType := some "int"

/-- The text of a search is bound as a text, and the number of a list as a whole number. -/
theorem params_typed_labelled :
  ∃ s, count ⟨"lot", by decide⟩ [labelled, counted] none = .ok s
    ∧ s.params = [.text "%A%", .int 5]
    ∧ Condition.Binds .any [labelled, counted] s.params
  := by
  have hcount : count ⟨"lot", by decide⟩ [labelled, counted] none
      = .ok (counting (ident ⟨"lot", by decide⟩) [.like ⟨"label", by decide⟩ false "%A%",
        .among ⟨"qty", by decide⟩ [.int 5]]).build := by rfl
  refine ⟨_, hcount, rfl, ?_⟩
  apply params_typed.2.2.2 _ _ none _ hcount

end FilterRequest

end BoundSql
