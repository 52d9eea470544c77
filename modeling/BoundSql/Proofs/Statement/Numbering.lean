import BoundSql.Guard.RuleTable
import BoundSql.Proofs.Entity.Wording
import BoundSql.Proofs.Filter.Listing

/-!
# Numbering of placeholders

The statements that requests and field bags compile to are built from fragments
that are plainly worded and legible; those of entities, restrictions and the
table of rules are legible as well. So in every statement that anything compiles
to the placeholders are numbered from one on, one for each value.
-/

namespace BoundSql

open Fragment

/-- The statements that requests, calls and field bags compile to. -/
inductive Requested : Statement → Prop where
  | select {table : Ident} {request : FilterRequest} {layout : Option Layout} {s : Statement}
      (h : FilterRequest.select table request layout = .ok s) : Requested s
  | count {table : Ident} {conditions : List Condition} {layout : Option Layout} {s : Statement}
      (h : FilterRequest.count table conditions layout = .ok s) : Requested s
  | selectCall {c : FunctionCall} {s : Statement} (h : c.select = .ok s) : Requested s
  | countCall {c : FunctionCall} {s : Statement} (h : c.count = .ok s) : Requested s
  | insert {table : Ident} {values : FieldBag} {s : Statement}
      (h : AdHoc.insert table values = .ok s) : Requested s
  | insertReturning {table : Ident} {values : FieldBag} {keyColumn : String} {s : Statement}
      (h : AdHoc.insertReturning table values keyColumn = .ok s) : Requested s
  | update {table : Ident} {sets keys : FieldBag} {s : Statement}
      (h : AdHoc.update table sets keys = .ok s) : Requested s
  | delete {table : Ident} {keys : FieldBag} {s : Statement}
      (h : AdHoc.delete table keys = .ok s) : Requested s
  | exists? {table : Ident} {keys : FieldBag} {s : Statement}
      (h : AdHoc.exists? table keys = .ok s) : Requested s

/-- The statements that anything compiles to. -/
inductive Compiled : Statement → Prop where
  | requested {s : Statement} (h : Requested s) : Compiled s
  | insert {e : Entity} {values : List Value} {stamp : Option Stamp} {s : Statement}
      (h : e.insert values stamp = .ok s) : Compiled s
  | insertReturningKey {e : Entity} {values : List Value} {stamp : Option Stamp} {s : Statement}
      (h : e.insertReturningKey values stamp = .ok s) : Compiled s
  | select {e : Entity} {rows : Restriction} {first : Bool} {s : Statement}
      (h : e.select rows first = .ok s) : Compiled s
  | softDelete {e : Entity} {rows : Restriction} {stamp : Stamp} {s : Statement}
      (h : e.softDelete rows stamp = .ok s) : Compiled s
  | update {u : Update} {e : Entity} {stamp : Option Stamp} {s : Statement}
      (h : u.compile e stamp = .ok s) : Compiled s
  | restriction (rows : Restriction) : Compiled rows.fragment.build
  | rules (t : RuleTable) (owner : String) : Compiled (t.load owner)

namespace Requested

variable {s : Statement}

/-- What is requested is plain and legible. -/
theorem plain_and_legible (h : Requested s) :
  s.Plain ∧ s.Legible
  := by
  cases h with
  | select h =>
      obtain ⟨clauses, _, rfl⟩ := FilterRequest.listing_of_select h
      apply (FilterRequest.plain_listing (plain_ident _) clauses _ _).build
      apply FilterRequest.legible_listing (legible_ident _)
  | count h =>
      obtain ⟨clauses, _, rfl⟩ := FilterRequest.counting_of_count h
      apply (FilterRequest.plain_counting (plain_ident _) clauses).build
      apply FilterRequest.legible_counting (legible_ident _)
  | @selectCall c s h =>
      obtain ⟨values, clauses, _, _, rfl⟩ := FunctionCall.listing_of_select h
      have hplain := FunctionCall.plain_callFragment c.signature.name values
      apply (FilterRequest.plain_listing hplain clauses _ _).build
      apply FilterRequest.legible_listing (FunctionCall.legible_callFragment _ _)
  | @countCall c s h =>
      obtain ⟨values, clauses, _, _, rfl⟩ := FunctionCall.counting_of_count h
      have hplain := FunctionCall.plain_callFragment c.signature.name values
      apply (FilterRequest.plain_counting hplain clauses).build
      apply FilterRequest.legible_counting (FunctionCall.legible_callFragment _ _)
  | insert h =>
      rw [AdHoc.insert] at h
      obtain ⟨fields, _, ⟨⟩⟩ := bind_eq_ok.mp h
      apply (AdHoc.plain_insertFragment _ fields).build (AdHoc.legible_insertFragment _ _)
  | insertReturning h =>
      rw [AdHoc.insertReturning] at h
      obtain ⟨key, _, h⟩ := bind_eq_ok.mp h
      obtain ⟨fields, _, ⟨⟩⟩ := bind_eq_ok.mp h
      apply (AdHoc.plain_insertFragment_returning _ fields key).build
      apply AdHoc.legible_insertFragment_returning
  | update h =>
      rw [AdHoc.update] at h
      split at h
      · contradiction
      · split at h
        · contradiction
        · obtain ⟨sets, _, h⟩ := bind_eq_ok.mp h
          obtain ⟨keys, _, ⟨⟩⟩ := bind_eq_ok.mp h
          apply (AdHoc.plain_updating _ sets keys).build (AdHoc.legible_updating _ _ _)
  | delete h =>
      rw [AdHoc.delete] at h
      split at h
      · contradiction
      · obtain ⟨keys, _, ⟨⟩⟩ := bind_eq_ok.mp h
        apply (AdHoc.plain_deleting _ keys).build (AdHoc.legible_deleting _ _)
  | exists? h =>
      rw [AdHoc.exists?] at h
      obtain ⟨keys, _, ⟨⟩⟩ := bind_eq_ok.mp h
      apply (AdHoc.plain_asking _ keys).build (AdHoc.legible_asking _ _)

end Requested

-- The kernel looks at the two halves of the text one by one; as a whole it takes twice as long.
theorem RuleTable.isUndollared_columns :
  isUndollared columns = true
  := by
  unfold columns isUndollared
  rw [String.toList_append, List.all_append, Bool.and_eq_true]
  constructor
  · decide +kernel
  · decide +kernel

theorem RuleTable.legible_load (t : RuleTable) (owner : String) :
  (t.load owner).Legible
  := by
  rw [load]
  apply Legible.build
  simp only [append_assoc]
  apply legible_text_append (by decide)
  apply legible_text_append isUndollared_columns
  apply legible_text_append (by decide)
  apply legible_ident_append
  apply legible_text_append (by decide)
  apply legible_bound_append
  · apply legible_text_append (by decide)
    apply legible_bound_append
    · apply legible_text_append (by decide)
      apply legible_bound_append _ (legible_text (by decide)) (opensApart_text (by decide))
    · apply opensApart_text_append (by decide)
  · apply opensApart_text_append (by decide)

namespace Compiled

variable {s : Statement}

theorem legible (h : Compiled s) :
  s.Legible
  := by
  cases h with
  | requested h => apply h.plain_and_legible.2
  | insert h => apply Entity.legible_of_insert h
  | insertReturningKey h => apply Entity.legible_of_insertReturningKey h
  | select h => apply Entity.legible_of_select h
  | softDelete h => apply Entity.legible_of_softDelete h
  | update h => apply Update.legible_of_compile h
  | restriction rows => apply rows.legible_fragment.build
  | rules t owner => apply t.legible_load

/-- In whatever is compiled, the placeholders are the numbers from one on in order, as many as there
are values, and none is followed by a character of a name. -/
theorem numbered_of_compiled (h : Compiled s) :
  s.Numbered
  := h.legible.numbered

/-- A list of numbers, one of which has no value. -/
def amongNumbers : Condition where
  column := "0a"
  operator := .among
  values := some [.string "5", .null, .string "6"]
  declaredType := some "int"

/-- A page of the rows in a list, in the order of a column that starts with a digit. -/
def numberedRequest : FilterRequest where
  conditions := [amongNumbers]
  order := [⟨"1b", .ascending⟩]
  paging := some ⟨some 2, some 10⟩

/-- The page as a statement. -/
def numberedPage : Statement where
  sql := "SELECT * FROM 2t WHERE 0a IN ($1, $2) ORDER BY 1b ASC"
    ++ " OFFSET $3 ROWS FETCH NEXT $4 ROWS ONLY"
  params := [.int 5, .int 6, .int 10, .int 10]

/-- Values in a list and the bounds of a page are numbered in one sequence, and columns may start
with digits. -/
theorem numbered_of_compiled_page :
  FilterRequest.select ⟨"2t", by decide⟩ numberedRequest none = .ok numberedPage
    ∧ numberedPage.Numbered
  := by
  have hselect : FilterRequest.select ⟨"2t", by decide⟩ numberedRequest none
      = .ok numberedPage := by
    rfl
  constructor
  · apply hselect
  · apply numbered_of_compiled (.requested (.select hselect))

end Compiled

end BoundSql
