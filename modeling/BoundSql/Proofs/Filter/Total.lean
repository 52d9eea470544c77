import BoundSql.Proofs.Filter.Listing
import BoundSql.Proofs.Fragment.Written

/-!
# Totals

A total is the number of the rows that a listing shows page by page. The two are
refused together, with the same error. Else the text of the listing is that of
the total with the rows in place of their number and an ending behind it, and
the values of the listing are those of the total followed by those of the page.
-/

namespace BoundSql

open BoundSql.Text Fragment

namespace FilterRequest

/-! ### Endings of listings -/

/-- The order of a listing as it is written. -/
def orderText (terms : List (Ident × Direction)) (paged : Bool) : String :=
  match terms with
  | [] => if paged then " ORDER BY (SELECT NULL)" else ""
  | terms => " ORDER BY "
      ++ ", ".intercalate (terms.map fun (column, direction) => column.text ++ direction.word)

/-- A page as it is written with the numbers of its two places. -/
def pageText (offset fetch : Nat) : String :=
  " OFFSET $" ++ decimalText offset ++ " ROWS FETCH NEXT $" ++ decimalText fetch ++ " ROWS ONLY"

/-- The ending of a listing as it is written behind `n` values. -/
def endingText (terms : List (Ident × Direction)) (page : Option (Int64 × Int64)) (n : Nat) :
    String :=
  orderText terms page.isSome ++ page.elim "" fun _ => pageText (n + 1) (n + 2)

/-- The values of a page: how many rows it leaves out and how many it takes. -/
def pageValues (page : Option (Int64 × Int64)) : List Value :=
  page.elim [] fun (offset, fetch) => [.int offset, .int fetch]

theorem symbols_orderFragment (terms : List (Ident × Direction)) (paged : Bool) :
  (orderFragment terms paged).symbols = (orderText terms paged).toList.map .char
  := by
  cases terms with
  | nil =>
      cases paged with
      | true => simp [orderFragment, orderText]
      | false => rfl
  | cons term terms =>
      have hfull : ∀ f ∈ (term :: terms).map (fun (column, direction) =>
          ident column ++ text direction.word), f.isEmpty = false := by
        rw [List.forall_mem_map]
        intro _ _
        rfl
      have hterms : ((term :: terms).map fun (column, direction) =>
            ident column ++ text direction.word).map symbols
          = (((term :: terms).map fun (column, direction) =>
            column.text ++ direction.word).map String.toList).map (List.map .char) := by
        rw [List.map_map, List.map_map, List.map_map]
        apply List.map_congr_left
        rintro ⟨column, direction⟩ _
        simp
      rw [orderFragment, if_neg (by simp), orderText, symbols_append, symbols_text,
        joined_eq_intercalate _ hfull, symbols_intercalate, symbols_text, hterms,
        Symbol.intercalate_map_char, String.toList_append, String.toList_intercalate,
        List.map_append]
      simp

theorem toList_pageText (offset fetch : Nat) :
  (pageText offset fetch).toList
    = " OFFSET ".toList ++ (placeholder offset ++ (" ROWS FETCH NEXT ".toList
      ++ (placeholder fetch ++ " ROWS ONLY".toList)))
  := by
  simp [pageText, placeholder, decimalText]

theorem write_window (n : Nat) (offset fetch : Int64) :
  Symbol.write n (window offset fetch).symbols = (pageText (n + 1) (n + 2)).toList
  := by
  simp only [window, append_assoc, symbols_append, symbols_text, symbols_bound,
    List.singleton_append, Symbol.write_text, Symbol.write_slot, Symbol.write_map_char,
    toList_pageText]

theorem write_cut (n : Nat) (terms : List (Ident × Direction)) (page : Option (Int64 × Int64)) :
  Symbol.write n (cut terms page).symbols = (endingText terms page n).toList
  := by
  rw [cut, symbols_append, symbols_orderFragment, Symbol.write_text, endingText,
    String.toList_append]
  cases page with
  | none => rfl
  | some page => apply congrArg (_ ++ ·) (write_window n page.1 page.2)

example :
  endingText [(⟨"lot", by decide⟩, .descending)] (some (20, 10)) 2
    = " ORDER BY lot DESC OFFSET $3 ROWS FETCH NEXT $4 ROWS ONLY"
  := by decide +kernel

theorem params_cut (terms : List (Ident × Direction)) (page : Option (Int64 × Int64)) :
  (cut terms page).params = pageValues page
  := by
  have horder : (orderFragment terms page.isSome).params = [] := by
    rw [params_eq_filterMap, symbols_orderFragment, Symbol.filterMap_slot?_map_char]
  rw [cut, params_append, horder]
  cases page with
  | none => rfl
  | some page => rfl

/-! ### Listings and totals -/

/-- A listing with an order and a page and the total of its rows are refused together; else the
listing has the rows in place of their number, and behind them its ending and the values of its
page. -/
structure Totals (terms : List (Ident × Direction)) (page : Option (Int64 × Int64))
    (listing total : Except Error Statement) : Prop where
  error_iff : ∀ e, listing = .error e ↔ total = .error e
  text : ∀ s t, listing = .ok s → total = .ok t → ∃ rest,
    t.sql = "SELECT COUNT(*)" ++ rest
      ∧ s.sql = "SELECT *" ++ rest ++ endingText terms page t.params.length
  params : ∀ s t, listing = .ok s → total = .ok t → s.params = t.params ++ pageValues page

theorem sql_append_cut (f : Fragment) (terms : List (Ident × Direction))
    (page : Option (Int64 × Int64)) :
  (f ++ cut terms page).sql = f.sql ++ endingText terms page f.params.length
  := by
  rw [← String.toList_inj, String.toList_append, toList_sql, toList_sql, symbols_append,
    Symbol.write_append, Nat.zero_add, write_cut, params_eq_filterMap]

/-- The first words of a head stand in front of the text. -/
theorem sql_rowsOf (first head : String) (source : Fragment) (clauses : List Clause) :
  (rowsOf (first ++ head) source clauses).sql = first ++ (rowsOf head source clauses).sql
  := by
  rw [← String.toList_inj, String.toList_append, toList_sql, toList_sql, rowsOf, rowsOf]
  simp only [append_assoc, symbols_append, symbols_text, String.toList_append, List.map_append,
    List.append_assoc, Symbol.write_text]

theorem params_rowsOf (head : String) (source : Fragment) (clauses : List Clause) :
  (rowsOf head source clauses).params = source.params ++ (Clause.whereFragment clauses).params
  := by
  rw [rowsOf, params_append, params_append, params_text, List.nil_append]

/-- The listing and the total of the same rows, which are known when they are not refused. -/
theorem totals_map {α : Type} (rows : Except Error α) (source : α → Fragment)
    (clauses : α → List Clause) (terms : List (Ident × Direction))
    (page : Option (Int64 × Int64)) :
  Totals terms page (rows.map fun a => (listing (source a) (clauses a) terms page).build)
    (rows.map fun a => (counting (source a) (clauses a)).build)
  := by
  cases rows with
  | error e =>
      constructor
      · intro e
        simp only [Except.map]
      · intro s t h
        contradiction
      · intro s t h
        contradiction
  | ok a =>
      have hparams : (rowsOf "SELECT * FROM " (source a) (clauses a)).params
          = (counting (source a) (clauses a)).params := by
        rw [counting, params_rowsOf, params_rowsOf]
      constructor
      · intro e
        constructor
        · intro h
          contradiction
        · intro h
          contradiction
      · rintro _ _ ⟨⟩ ⟨⟩
        use (rowsOf " FROM " (source a) (clauses a)).sql
        constructor
        · apply sql_rowsOf "SELECT COUNT(*)" " FROM "
        · apply (sql_append_cut _ terms page).trans
          rw [hparams]
          apply congrArg (· ++ _) (sql_rowsOf "SELECT *" " FROM " (source a) (clauses a))
      · rintro _ _ ⟨⟩ ⟨⟩
        apply (params_append _ _).trans
        rw [hparams, params_cut]
        rfl

end FilterRequest

namespace FunctionCall

open FilterRequest

/-- The values of the inputs of a call and the clauses on its result. -/
def parts (c : FunctionCall) : Except Error (List Value × List Clause) := do
  let values ← inputs c.args c.signature.inputs
  let clauses ← Condition.clauses (.layout c.signature.outputs) c.request.conditions
  pure (values, clauses)

theorem source_eq_map (c : FunctionCall) (head : String) :
  c.source head = c.parts.map fun (values, clauses) =>
    rowsOf head (callFragment c.signature.name values) clauses
  := by
  rw [source, parts]
  cases inputs c.args c.signature.inputs with
  | error e => rfl
  | ok values =>
      cases Condition.clauses (.layout c.signature.outputs) c.request.conditions with
      | error e => rfl
      | ok clauses => rfl

theorem select_eq_map (c : FunctionCall) :
  c.select = c.parts.map fun (values, clauses) =>
    (listing (callFragment c.signature.name values) clauses
      (orderTerms c.orderScope c.request.order) c.request.page?).build
  := by
  rw [select, source_eq_map]
  cases c.parts with
  | error e => rfl
  | ok parts => rfl

theorem count_eq_map (c : FunctionCall) :
  c.count = c.parts.map fun (values, clauses) =>
    (counting (callFragment c.signature.name values) clauses).build
  := by
  rw [count, source_eq_map]
  cases c.parts with
  | error e => rfl
  | ok parts => rfl

end FunctionCall

/-- The listing of a request and the number of the rows that its conditions let through, and
likewise the rows of a call and their number, are refused together, and they have the same source
and the same clauses. -/
theorem FilterRequest.listing_has_total :
  (∀ (table : Ident) (request : FilterRequest) (layout : Option Layout),
    Totals (orderTerms (.ofLayout? layout) request.order) request.page?
      (select table request layout) (count table request.conditions layout))
    ∧ ∀ c : FunctionCall,
      Totals (orderTerms c.orderScope c.request.order) c.request.page? c.select c.count
  := by
  constructor
  · intro table request layout
    rw [select_eq_map, count_eq_map]
    apply totals_map _ (fun _ => ident table) id
  · intro c
    rw [FunctionCall.select_eq_map, FunctionCall.count_eq_map]
    apply totals_map c.parts (fun parts => FunctionCall.callFragment c.signature.name parts.1)
      Prod.snd

/-- The third page of the lots above 100, in two orders. -/
def FilterRequest.largeLots : FilterRequest where
  conditions := [⟨"qty", .compare .greater, some (.string "100"), none, none, some "integer"⟩]
  order := [⟨"lot", .descending⟩, ⟨"id", .ascending⟩]
  paging := some ⟨some 3, some 10⟩

/-- The total of the large lots is known, so their third page is listed, with both orders and the
page behind the condition. -/
theorem FilterRequest.listing_has_total_largeLots :
  ∃ s, count ⟨"lots", by decide⟩ largeLots.conditions none
      = .ok ⟨"SELECT COUNT(*) FROM lots WHERE qty > $1", [.int 100]⟩
    ∧ select ⟨"lots", by decide⟩ largeLots none = .ok s
    ∧ s.sql = "SELECT * FROM lots WHERE qty > $1 ORDER BY lot DESC, id ASC OFFSET $2 ROWS "
      ++ "FETCH NEXT $3 ROWS ONLY"
    ∧ s.params = [.int 100, .int 20, .int 10]
  := by
  obtain ⟨htotals, -⟩ := listing_has_total
  obtain ⟨herror, htext, hparams⟩ := htotals ⟨"lots", by decide⟩ largeLots none
  have hcount : count ⟨"lots", by decide⟩ largeLots.conditions none
      = .ok ⟨"SELECT COUNT(*) FROM lots WHERE qty > $1", [.int 100]⟩ := by rfl
  cases hselect : select ⟨"lots", by decide⟩ largeLots none with
  | error e =>
      rw [(herror e).mp hselect] at hcount
      contradiction
  | ok s =>
      obtain ⟨rest, htotal, hlisting⟩ := htext s _ hselect hcount
      have hrest : " FROM lots WHERE qty > $1" = rest := by
        rw [← String.append_right_inj "SELECT COUNT(*)", ← htotal]
        rfl
      subst hrest
      use s, hcount, rfl
      constructor
      · rw [hlisting]
        decide +kernel
      · rw [hparams s _ hselect hcount]
        rfl

end BoundSql
