import BoundSql.Proofs.Filter.Listing
import BoundSql.Proofs.Filter.Survival
import BoundSql.Proofs.Ident

/-!
# Confinement to layouts

A layout places a name on the first of its columns of that name, in the spelling
and with the type that it declares, and it places no other names. So a request
in a layout keeps only columns of the layout, whatever types its conditions
declare. The result of a call is filtered by its output columns and ordered by
those of them that are allowed; its inputs have no part in either.
-/

namespace BoundSql

open BoundSql.Text Fragment

/-! ### Places in a layout -/

namespace Layout

/-- The first column of a name. -/
def FirstNamed (l : Layout) (name : String) (info : ColumnInfo) : Prop :=
  ∃ before after, l.columns = before ++ info :: after ∧ sameName info.name name = true
    ∧ ∀ c ∈ before, sameName c.name name = false

/-- A name is placed on the first column that has it without the blanks at its ends, in the spelling
and with the type of that column. -/
def Places (l : Layout) (name : String) (column : Ident) (ty : ColumnType) : Prop :=
  ∃ info, l.FirstNamed (trim name) info ∧ column.text = info.name ∧ ty = info.type

/-- An identifier in the spelling of a column. -/
def Declares (l : Layout) (column : Ident) : Prop :=
  ∃ info ∈ l.columns, column.text = info.name

variable {l : Layout} {name : String} {column : Ident}

theorem find?_eq_some_iff {info : ColumnInfo} :
  l.find? name = some info ↔ l.FirstNamed name info
  := by
  rw [find?, List.find?_eq_some_iff_append]
  constructor
  · rintro ⟨hname, before, after, hcolumns, hbefore⟩
    use before, after, hcolumns, hname
    simpa using hbefore
  · rintro ⟨before, after, hcolumns, hname, hbefore⟩
    use hname, before, after, hcolumns
    simpa using hbefore

theorem FirstNamed.mem {info : ColumnInfo} (h : l.FirstNamed name info) :
  info ∈ l.columns
  := by
  obtain ⟨before, after, hcolumns, _⟩ := h
  simp [hcolumns]

theorem Places.declares {ty : ColumnType} (h : l.Places name column ty) :
  l.Declares column
  := by
  obtain ⟨info, hfirst, hcolumn, _⟩ := h
  use info, hfirst.mem

/-- The columns of a restricted layout are columns of the layout, and they are named. -/
theorem Declares.of_restrictTo {names : List String} (h : (l.restrictTo names).Declares column) :
  l.Declares column ∧ ∃ n ∈ names, sameName column.text n = true
  := by
  obtain ⟨info, hinfo, hcolumn⟩ := h
  obtain ⟨hmem, hnamed⟩ := List.mem_filter.mp hinfo
  constructor
  · use info, hmem
  · rw [hcolumn]
    simpa using hnamed

end Layout

theorem Scope.places_of_resolve? {l : Layout} {name : String} {column : Ident}
    {declared : Option ColumnType} (h : (Scope.layout l).resolve? name = some (column, declared)) :
  ∃ ty, declared = some ty ∧ l.Places name column ty
  := by
  simp only [resolve?] at h
  split at h
  · contradiction
  · obtain ⟨info, hfind, hinfo⟩ := Option.bind_eq_some_iff.mp h
    obtain ⟨i, hcolumn, hplace⟩ := Option.map_eq_some_iff.mp hinfo
    obtain ⟨rfl, rfl⟩ := Prod.mk.inj hplace
    use info.type, rfl, info, Layout.find?_eq_some_iff.mp hfind
    use Ident.text_of_column? hcolumn

/-! ### Conditions and order terms in a layout -/

/-- The column that a clause is about, if there is one. -/
def Clause.column? : Clause → Option Ident
  | .compare column _ _ => some column
  | .like column _ _ => some column
  | .between column _ _ => some column
  | .among column _ => some column
  | .notAmong column _ => some column
  | .null column => some column
  | .notNull column => some column
  | .never => none

namespace Condition

/-- The condition without a declared type. -/
def undeclared (c : Condition) : Condition :=
  { c with declaredType := none }

theorem Reads.eq_of_mem_column? {c : Condition} {column : Ident} {ty : ColumnType} {clause : Clause}
    (h : c.Reads column ty clause) :
  ∀ i ∈ clause.column?, i = column
  := by
  intro i hi
  cases h with
  | never => contradiction
  | _ => exact (Option.some.inj hi).symm

variable {l : Layout}

theorem places_of_placed? {c : Condition} {column : Ident} {ty : ColumnType}
    (h : c.placed? (.layout l) = some (column, ty)) :
  l.Places c.column column ty
  := by
  obtain ⟨⟨i, declared⟩, hresolve, hplace⟩ := Option.map_eq_some_iff.mp h
  obtain ⟨rfl, rfl⟩ := Prod.mk.inj hplace
  obtain ⟨ty, rfl, hplaces⟩ := Scope.places_of_resolve? hresolve
  apply hplaces

/-- In a layout a condition drops out, or it is on the column on which the layout places it. -/
theorem clause_cases_of_layout (l : Layout) (c : Condition) :
  c.clause (.layout l) = .ok none
    ∨ ∃ column ty, l.Places c.column column ty ∧ c.clause (.layout l) = c.clauseOn column ty
  := by
  cases hplaced : c.placed? (.layout l) with
  | none =>
      left
      apply clause_of_unplaced hplaced
  | some place =>
      right
      obtain ⟨column, ty⟩ := place
      use column, ty, places_of_placed? hplaced
      apply clause_of_placed hplaced

/-- In a layout the type that a condition declares does not count. -/
theorem clause_undeclared (l : Layout) (c : Condition) :
  c.undeclared.clause (.layout l) = c.clause (.layout l)
  := by
  simp only [clause]
  cases hresolve : (Scope.layout l).resolve? c.column with
  | none => simp only [undeclared, hresolve]
  | some place =>
      obtain ⟨column, declared⟩ := place
      obtain ⟨ty, rfl, _⟩ := Scope.places_of_resolve? hresolve
      simp only [undeclared, hresolve]
      rfl

theorem clauses_undeclared (l : Layout) (conditions : List Condition) :
  clauses (.layout l) (conditions.map undeclared) = clauses (.layout l) conditions
  := by
  induction conditions with
  | nil => rfl
  | cons c conditions ih => rw [List.map_cons, clauses, clauses, clause_undeclared, ih]

end Condition

/-- Whether the column of an order term is in a scope. -/
def OrderTerm.survives (scope : Scope) (t : OrderTerm) : Bool :=
  (scope.resolve? t.column).isSome

theorem orderTerms_cons (scope : Scope) (t : OrderTerm) (order : List OrderTerm) :
  orderTerms scope (t :: order)
    = ((scope.resolve? t.column).map fun (column, _) => (column, t.direction)).toList
      ++ orderTerms scope order
  := by
  rw [orderTerms, List.filterMap_cons]
  cases scope.resolve? t.column with
  | none => rfl
  | some place => rfl

theorem places_of_orderTerms (l : Layout) (order : List OrderTerm) :
  List.Forall₂ (fun t term => term.2 = t.direction ∧ ∃ ty, l.Places t.column term.1 ty)
    (order.filter (OrderTerm.survives (.layout l))) (orderTerms (.layout l) order)
  := by
  induction order with
  | nil => apply List.Forall₂.nil
  | cons t order ih =>
      rw [orderTerms_cons]
      cases hresolve : (Scope.layout l).resolve? t.column with
      | none =>
          rw [List.filter_cons_of_neg (by simp [OrderTerm.survives, hresolve])]
          apply ih
      | some place =>
          obtain ⟨column, declared⟩ := place
          obtain ⟨ty, _, hplaces⟩ := Scope.places_of_resolve? hresolve
          rw [List.filter_cons_of_pos (by simp [OrderTerm.survives, hresolve])]
          apply List.Forall₂.cons ⟨rfl, ty, hplaces⟩ ih

/-! ### Requests in layouts -/

namespace FilterRequest

/-- What a request keeps when one layout places its conditions and another its order terms: a clause
for each condition that survives, and a column with its direction for each order term that does. -/
structure Keeps (request : FilterRequest) (filters orders : Layout) (clauses : List Clause)
    (terms : List (Ident × Direction)) : Prop where
  reads : List.Forall₂
    (fun c clause => ∃ column ty, filters.Places c.column column ty ∧ c.Reads column ty clause)
    (request.conditions.filter (Condition.survives (.layout filters))) clauses
  sorts : List.Forall₂
    (fun t term => term.2 = t.direction ∧ ∃ ty, orders.Places t.column term.1 ty)
    (request.order.filter (OrderTerm.survives (.layout orders))) terms

theorem keeps_of_clauses {request : FilterRequest} {filters : Layout} {clauses : List Clause}
    (h : Condition.clauses (.layout filters) request.conditions = .ok clauses) (orders : Layout) :
  request.Keeps filters orders clauses (orderTerms (.layout orders) request.order)
  := by
  constructor
  · apply (Condition.reads_of_clauses h).imp
    rintro c clause ⟨column, ty, hplaced, hreads⟩
    use column, ty, Condition.places_of_placed? hplaced
  · apply places_of_orderTerms

section

variable {request : FilterRequest} {filters orders : Layout} {clauses : List Clause}
  {terms : List (Ident × Direction)}

/-- The columns of the clauses are columns of the layout for conditions. -/
theorem Keeps.declares_column (h : request.Keeps filters orders clauses terms) :
  ∀ clause ∈ clauses, ∀ column ∈ clause.column?, filters.Declares column
  := by
  intro clause hclause i hi
  obtain ⟨k, hk, rfl⟩ := List.getElem_of_mem hclause
  obtain ⟨column, ty, hplaces, hreads⟩ := h.reads.get (h.reads.length_eq ▸ hk) hk
  obtain rfl := hreads.eq_of_mem_column? i hi
  apply hplaces.declares

/-- The columns of the order are columns of the layout for order terms. -/
theorem Keeps.declares_term (h : request.Keeps filters orders clauses terms) :
  ∀ term ∈ terms, orders.Declares term.1
  := by
  intro term hterm
  obtain ⟨k, hk, rfl⟩ := List.getElem_of_mem hterm
  obtain ⟨_, ty, hplaces⟩ := h.sorts.get (h.sorts.length_eq ▸ hk) hk
  apply hplaces.declares

end

end FilterRequest

/-! ### Requests on the results of calls -/

namespace FunctionCall

open FilterRequest

/-- The output columns that the result may be ordered by. -/
def orderLayout (c : FunctionCall) : Layout :=
  c.orderAllowed.elim c.signature.outputs c.signature.outputs.restrictTo

/-- The call of a function with other inputs. -/
def withInputs (c : FunctionCall) (inputs : List ColumnInfo) : FunctionCall :=
  { c with signature := { c.signature with inputs } }

/-- A name that an input has and no output. -/
def IsInputOnly (c : FunctionCall) (name : String) : Prop :=
  (∃ input ∈ c.signature.inputs, sameName input.name name = true)
    ∧ ∀ output ∈ c.signature.outputs.columns, sameName output.name name = false

variable {c : FunctionCall} {column : Ident}

theorem not_isInputOnly_of_declares (h : c.signature.outputs.Declares column) :
  ¬ c.IsInputOnly column.text
  := by
  rintro ⟨_, houtputs⟩
  obtain ⟨info, hinfo, hcolumn⟩ := h
  have hother := houtputs info hinfo
  rw [hcolumn, sameName_refl] at hother
  contradiction

/-- The result is ordered by output columns that are allowed. -/
theorem declares_of_orderLayout (h : c.orderLayout.Declares column) :
  c.signature.outputs.Declares column
    ∧ ∀ names ∈ c.orderAllowed, ∃ n ∈ names, sameName column.text n = true
  := by
  rw [orderLayout] at h
  cases hallowed : c.orderAllowed with
  | none =>
      rw [hallowed] at h
      use h
      simp
  | some names =>
      rw [hallowed] at h
      obtain ⟨hdeclares, hnamed⟩ := Layout.Declares.of_restrictTo h
      use hdeclares
      rintro _ ⟨⟩
      apply hnamed

end FunctionCall

namespace FilterRequest

open FunctionCall

/-- A listing in a layout names only columns of the layout behind its source, each in its own
spelling, and it takes each condition in the type of the first column with the condition's name,
whatever type the condition declares. The listing of a call names only output columns, and it is
ordered only by those that are allowed; a name that only inputs have is not among them, and other
names for the inputs give the same clauses and the same order. -/
theorem listing_confined :
  (∀ (table : Ident) (request : FilterRequest) (layout : Layout) (s : Statement),
      select table request (some layout) = .ok s →
      ∃ clauses terms, s = (listing (ident table) clauses terms request.page?).build
        ∧ request.Keeps layout layout clauses terms
        ∧ (∀ clause ∈ clauses, ∀ column ∈ clause.column?, layout.Declares column)
        ∧ ∀ term ∈ terms, layout.Declares term.1)
    ∧ (∀ (layout : Layout) (c : Condition), c.clause (.layout layout) = .ok none
      ∨ ∃ column ty, layout.Places c.column column ty
        ∧ c.clause (.layout layout) = c.clauseOn column ty)
    ∧ (∀ (table : Ident) (request : FilterRequest) (conditions : List Condition) (layout : Layout),
      request.conditions.map Condition.undeclared = conditions.map Condition.undeclared →
      select table request (some layout) = select table { request with conditions } (some layout))
    ∧ (∀ (c : FunctionCall) (s : Statement), c.select = .ok s →
      ∃ values clauses terms,
        s = (listing (callFragment c.signature.name values) clauses terms c.request.page?).build
        ∧ c.request.Keeps c.signature.outputs c.orderLayout clauses terms
        ∧ (∀ clause ∈ clauses, ∀ column ∈ clause.column?,
          c.signature.outputs.Declares column ∧ ¬ c.IsInputOnly column.text)
        ∧ ∀ term ∈ terms, c.signature.outputs.Declares term.1 ∧ ¬ c.IsInputOnly term.1.text
          ∧ ∀ names ∈ c.orderAllowed, ∃ n ∈ names, sameName term.1.text n = true)
    ∧ ∀ (c : FunctionCall) (inputs : List ColumnInfo) (s s' : Statement),
      inputs.map (·.declaredType) = c.signature.inputs.map (·.declaredType) →
      c.select = .ok s → (c.withInputs inputs).select = .ok s' →
      ∃ values values' clauses terms,
        s = (listing (callFragment c.signature.name values) clauses terms c.request.page?).build
        ∧ s' = (listing (callFragment c.signature.name values') clauses terms
          c.request.page?).build
        ∧ c.request.Keeps c.signature.outputs c.orderLayout clauses terms
        ∧ s'.sql = s.sql
  := by
  refine ⟨?_, Condition.clause_cases_of_layout, ?_, ?_, ?_⟩
  · intro table request layout s hselect
    obtain ⟨clauses, hclauses, hs⟩ := FilterRequest.listing_of_select hselect
    have hkeeps := keeps_of_clauses hclauses layout
    use clauses, orderTerms (.layout layout) request.order, hs, hkeeps
    use hkeeps.declares_column, hkeeps.declares_term
  · intro table request conditions layout hsame
    have hclauses : Condition.clauses (.layout layout) request.conditions
        = Condition.clauses (.layout layout) conditions := by
      rw [← Condition.clauses_undeclared, hsame, Condition.clauses_undeclared]
    rw [select_eq_map, select_eq_map]
    apply congrArg (Except.map _) hclauses
  · intro c s hselect
    obtain ⟨values, clauses, _, hclauses, hs⟩ := FunctionCall.listing_of_select hselect
    have hkeeps := keeps_of_clauses hclauses c.orderLayout
    use values, clauses, orderTerms c.orderScope c.request.order, hs, hkeeps
    constructor
    · intro clause hclause column hcolumn
      have hdeclares := hkeeps.declares_column clause hclause column hcolumn
      use hdeclares, not_isInputOnly_of_declares hdeclares
    · intro term hterm
      obtain ⟨hdeclares, hnamed⟩ := declares_of_orderLayout (hkeeps.declares_term term hterm)
      use hdeclares, not_isInputOnly_of_declares hdeclares
  · intro c inputs s s' htypes hselect hselect'
    obtain ⟨values, clauses, hvalues, hclauses, hs⟩ := FunctionCall.listing_of_select hselect
    obtain ⟨values', clauses', hvalues', hclauses', hs'⟩ := FunctionCall.listing_of_select hselect'
    obtain rfl : clauses = clauses' := Except.ok.inj (hclauses.symm.trans hclauses')
    have hlength : values'.length = values.length := by
      have hinputs := congrArg List.length htypes
      rw [List.length_map, List.length_map] at hinputs
      rw [length_of_inputs hvalues, ← hinputs]
      apply length_of_inputs hvalues'
    use values, values', clauses, orderTerms c.orderScope c.request.order, hs, hs'
    use keeps_of_clauses hclauses c.orderLayout
    rw [hs, hs']
    apply sql_eq_of_outline
    apply outline_listing (outline_callFragment c.signature.name hlength) rfl

/-- Two columns of one name in different spellings and types. -/
def twoSpellings : Layout where
  columns := [⟨"Qty", "int"⟩, ⟨"qty", "text"⟩]

/-- A condition that declares a type of its own. -/
def declaredAsText : Condition where
  column := " QTY "
  operator := .compare .greater
  value := some (.string "5")
  declaredType := some "text"

/-- The first of two columns counts, in its spelling and with its type. -/
theorem listing_confined_twoSpellings :
  select ⟨"lot", by decide⟩ { conditions := [declaredAsText], order := [⟨"qty", .descending⟩] }
      (some twoSpellings) = .ok ⟨"SELECT * FROM lot WHERE Qty > $1 ORDER BY Qty DESC", [.int 5]⟩
    ∧ ∃ clauses terms, FilterRequest.Keeps
        { conditions := [declaredAsText], order := [⟨"qty", .descending⟩] } twoSpellings
        twoSpellings clauses terms
      ∧ (∀ clause ∈ clauses, ∀ column ∈ clause.column?, twoSpellings.Declares column)
      ∧ ∀ term ∈ terms, twoSpellings.Declares term.1
  := by
  have hselect : select ⟨"lot", by decide⟩
      { conditions := [declaredAsText], order := [⟨"qty", .descending⟩] } (some twoSpellings)
      = .ok ⟨"SELECT * FROM lot WHERE Qty > $1 ORDER BY Qty DESC", [.int 5]⟩ := by
    rfl
  obtain ⟨hconfined, _⟩ := listing_confined
  obtain ⟨clauses, terms, _, hkeeps⟩ := hconfined _ _ _ _ hselect
  use hselect, clauses, terms

end FilterRequest

end BoundSql
