import BoundSql.Proofs.Filter.Operand

/-!
# Survival of conditions

A condition survives in a scope when its column is in the scope and enough of
its operands are given. Conditions compile to the clauses of those that survive,
in order, or to the error of the first one that is refused. A condition that
neither survives nor is refused leaves no trace.
-/

namespace BoundSql

namespace Condition

/-! ### Conditions in a scope -/

/-- The column that a condition is placed on, and its type. -/
def placed? (scope : Scope) (c : Condition) : Option (Ident × ColumnType) :=
  (scope.resolve? c.column).map fun (column, declared) => (column, c.columnType declared)

/-- Whether a condition survives: it remains on the column that it is placed on. -/
def survives (scope : Scope) (c : Condition) : Bool :=
  (c.placed? scope).any fun (_, ty) => c.remains ty

/-- A condition is refused in a scope when it is on the column that it is placed on. -/
def RefusedIn (scope : Scope) (c : Condition) (column : Ident) (r : Refusal) : Prop :=
  ∃ ty, c.placed? scope = some (column, ty) ∧ c.Refused ty r

/-- The clause that a condition is on the column that it is placed on. -/
def ReadsIn (scope : Scope) (c : Condition) (clause : Clause) : Prop :=
  ∃ column ty, c.placed? scope = some (column, ty) ∧ c.Reads column ty clause

/-- What becomes of a condition in a scope: it is refused, or it is a clause when it survives and
nothing when it does not. -/
inductive CompilesIn (scope : Scope) (c : Condition) : Except Error (Option Clause) → Prop where
  | refused {column : Ident} {r : Refusal} (hrefused : c.RefusedIn scope column r) :
      CompilesIn scope c (.error (.invalidValue column.text r))
  | reads {clause : Clause} (hrefused : ∀ column r, ¬ c.RefusedIn scope column r)
      (hsurvives : c.survives scope = true) (hreads : c.ReadsIn scope clause) :
      CompilesIn scope c (.ok (some clause))
  | dropped (hrefused : ∀ column r, ¬ c.RefusedIn scope column r)
      (hsurvives : c.survives scope = false) : CompilesIn scope c (.ok none)

theorem clause_of_unplaced {scope : Scope} {c : Condition} (h : c.placed? scope = none) :
  c.clause scope = .ok none
  := by
  rw [placed?, Option.map_eq_none_iff] at h
  rw [clause, h]
  split
  · rfl
  · rfl

theorem clause_of_placed {scope : Scope} {c : Condition} {column : Ident} {ty : ColumnType}
    (h : c.placed? scope = some (column, ty)) :
  c.clause scope = c.clauseOn column ty
  := by
  obtain ⟨⟨_, declared⟩, hresolve, hplaced⟩ := Option.map_eq_some_iff.mp h
  obtain ⟨rfl, rfl⟩ := Prod.mk.inj hplaced
  rw [clause, hresolve]
  split
  · next hunset => simp only [clauseOn, hunset]
  · rfl

theorem compilesIn_clause (scope : Scope) (c : Condition) :
  c.CompilesIn scope (c.clause scope)
  := by
  cases hplaced : c.placed? scope with
  | none =>
      rw [clause_of_unplaced hplaced]
      apply CompilesIn.dropped
      · rintro column r ⟨ty, hsome, _⟩
        rw [hplaced] at hsome
        contradiction
      · rw [survives, hplaced]
        rfl
  | some place =>
      obtain ⟨column, ty⟩ := place
      have hsurvives : c.survives scope = c.remains ty := by
        rw [survives, hplaced]
        rfl
      have hrefused : (∀ r, ¬ c.Refused ty r) → ∀ column r, ¬ c.RefusedIn scope column r := by
        rintro h column r ⟨ty', hsome, hrefused⟩
        rw [hplaced] at hsome
        obtain ⟨_, rfl⟩ := Prod.mk.inj (Option.some.inj hsome)
        apply h r hrefused
      have hcompiles := c.compiles_clauseOn column ty
      rw [clause_of_placed hplaced]
      generalize c.clauseOn column ty = result at hcompiles
      cases hcompiles with
      | refused h => apply CompilesIn.refused ⟨ty, hplaced, h⟩
      | reads hr hremains h =>
          apply CompilesIn.reads (hrefused hr) (hsurvives.trans hremains) ⟨column, ty, hplaced, h⟩
      | dropped hr hremains => apply CompilesIn.dropped (hrefused hr) (hsurvives.trans hremains)

/-! ### Lists of conditions -/

/-- Conditions are refused at the first one that is refused. -/
def FirstRefused (scope : Scope) (conditions : List Condition) (column : Ident) (r : Refusal) :
    Prop :=
  ∃ before c after, conditions = before ++ c :: after
    ∧ (∀ b ∈ before, ∀ column r, ¬ b.RefusedIn scope column r) ∧ c.RefusedIn scope column r

/-- What becomes of conditions in a scope: they are refused, or they are the clauses of those that
survive. -/
inductive CompileIn (scope : Scope) (conditions : List Condition) :
    Except Error (List Clause) → Prop where
  | refused {column : Ident} {r : Refusal} (hfirst : FirstRefused scope conditions column r) :
      CompileIn scope conditions (.error (.invalidValue column.text r))
  | reads {clauses : List Clause}
      (hrefused : ∀ c ∈ conditions, ∀ column r, ¬ c.RefusedIn scope column r)
      (hreads : List.Forall₂ (ReadsIn scope) (conditions.filter (survives scope)) clauses) :
      CompileIn scope conditions (.ok clauses)

section

variable {scope : Scope} {c : Condition} {conditions : List Condition}

theorem clauses_of_error {e : Error} (h : c.clause scope = .error e) :
  clauses scope (c :: conditions) = .error e
  := by
  rw [clauses, h]
  rfl

theorem clauses_of_ok {o : Option Clause} (h : c.clause scope = .ok o) :
  clauses scope (c :: conditions) = (clauses scope conditions).map (o.toList ++ ·)
  := by
  rw [clauses, h]
  cases clauses scope conditions with
  | error e => rfl
  | ok cs => rfl

/-- The first condition is the one refused, or the others tell what becomes of all. -/
theorem CompileIn.cons {first : Except Error (Option Clause)}
    {rest : Except Error (List Clause)} (hfirst : c.CompilesIn scope first)
    (hrest : CompileIn scope conditions rest) :
  CompileIn scope (c :: conditions) (first.bind fun o => rest.map (o.toList ++ ·))
  := by
  cases hfirst with
  | refused h => apply CompileIn.refused ⟨[], c, conditions, rfl, by simp, h⟩
  | reads hr hsurvives hreads =>
      cases hrest with
      | refused h =>
          obtain ⟨before, d, after, rfl, hbefore, hd⟩ := h
          apply CompileIn.refused ⟨c :: before, d, after, rfl, _, hd⟩
          apply List.forall_mem_cons.mpr ⟨hr, hbefore⟩
      | reads hrs hclauses =>
          apply CompileIn.reads (List.forall_mem_cons.mpr ⟨hr, hrs⟩)
          rw [List.filter_cons_of_pos hsurvives]
          apply List.Forall₂.cons hreads hclauses
  | dropped hr hsurvives =>
      cases hrest with
      | refused h =>
          obtain ⟨before, d, after, rfl, hbefore, hd⟩ := h
          apply CompileIn.refused ⟨c :: before, d, after, rfl, _, hd⟩
          apply List.forall_mem_cons.mpr ⟨hr, hbefore⟩
      | reads hrs hclauses =>
          apply CompileIn.reads (List.forall_mem_cons.mpr ⟨hr, hrs⟩)
          rw [List.filter_cons_of_neg (by simp [hsurvives])]
          apply hclauses

theorem compileIn_clauses (scope : Scope) (conditions : List Condition) :
  CompileIn scope conditions (clauses scope conditions)
  := by
  induction conditions with
  | nil => apply CompileIn.reads (by simp) List.Forall₂.nil
  | cons c conditions ih =>
      have hcons := CompileIn.cons (c.compilesIn_clause scope) ih
      cases hclause : c.clause scope with
      | error e =>
          rw [hclause] at hcons
          rw [clauses_of_error hclause]
          apply hcons
      | ok o =>
          rw [hclause] at hcons
          rw [clauses_of_ok hclause]
          apply hcons

/-- The clauses of conditions that compile are those of the conditions that survive. -/
theorem reads_of_clauses {clauses : List Clause}
    (h : Condition.clauses scope conditions = .ok clauses) :
  List.Forall₂ (ReadsIn scope) (conditions.filter (survives scope)) clauses
  := by
  have hcompile := compileIn_clauses scope conditions
  rw [h] at hcompile
  cases hcompile with
  | reads _ hreads => apply hreads

/-- A condition that neither survives nor is refused leaves no trace. -/
theorem clauses_without (hsurvives : c.survives scope = false)
    (hrefused : ∀ column r, ¬ c.RefusedIn scope column r) (before after : List Condition) :
  clauses scope (before ++ c :: after) = clauses scope (before ++ after)
  := by
  have hclause : c.clause scope = .ok none := by
    have hcompile := c.compilesIn_clause scope
    generalize c.clause scope = result at hcompile
    cases hcompile with
    | refused h => cases hrefused _ _ h
    | reads _ h _ =>
        rw [hsurvives] at h
        contradiction
    | dropped _ _ => rfl
  induction before with
  | nil =>
      rw [List.nil_append, List.nil_append, clauses_of_ok hclause]
      cases clauses scope after with
      | error e => rfl
      | ok cs => rfl
  | cons b before ih =>
      rw [List.cons_append, List.cons_append, clauses, clauses, ih]

end

end Condition

end BoundSql
