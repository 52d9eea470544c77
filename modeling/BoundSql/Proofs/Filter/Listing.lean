import BoundSql.Proofs.Clause.Wording
import BoundSql.Proofs.Statement.Built
import BoundSql.TableFunction

/-!
# Listings

A listing and a count are a head, a source of rows, clauses and, for a listing,
an order and a page. The source is a table or the call of a function. What a
request compiles to is the listing or the count of its clauses.
-/

namespace BoundSql

open Fragment

namespace FilterRequest

/-- The window of the page that a request asks for. -/
def page? (request : FilterRequest) : Option (Int64 × Int64) :=
  request.paging.bind Paging.window?

/-- The rows of a source that clauses let through, behind the head of a statement. -/
def rowsOf (head : String) (source : Fragment) (clauses : List Clause) : Fragment :=
  text head ++ source ++ Clause.whereFragment clauses

/-- The end of a listing: its order and its page. -/
def cut (terms : List (Ident × Direction)) (page : Option (Int64 × Int64)) : Fragment :=
  orderFragment terms page.isSome ++ page.elim empty fun (offset, fetch) => window offset fetch

/-- The rows of a source that clauses let through, in an order and cut to a page. -/
def listing (source : Fragment) (clauses : List Clause) (terms : List (Ident × Direction))
    (page : Option (Int64 × Int64)) : Fragment :=
  rowsOf "SELECT * FROM " source clauses ++ cut terms page

/-- The number of the rows of a source that clauses let through. -/
def counting (source : Fragment) (clauses : List Clause) : Fragment :=
  rowsOf "SELECT COUNT(*) FROM " source clauses

/-! ### Listings and counts of requests -/

theorem select_eq_map (table : Ident) (request : FilterRequest) (layout : Option Layout) :
  select table request layout
    = (Condition.clauses (.ofLayout? layout) request.conditions).map fun clauses =>
      (listing (ident table) clauses (orderTerms (.ofLayout? layout) request.order)
        request.page?).build
  := by
  rw [select]
  cases Condition.clauses (.ofLayout? layout) request.conditions with
  | error e => rfl
  | ok clauses => rfl

theorem count_eq_map (table : Ident) (conditions : List Condition) (layout : Option Layout) :
  count table conditions layout
    = (Condition.clauses (.ofLayout? layout) conditions).map fun clauses =>
      (counting (ident table) clauses).build
  := by
  rw [count]
  cases Condition.clauses (.ofLayout? layout) conditions with
  | error e => rfl
  | ok clauses => rfl

section

variable {table : Ident} {request : FilterRequest} {conditions : List Condition}
  {layout : Option Layout} {s : Statement}

theorem listing_of_select (h : select table request layout = .ok s) :
  ∃ clauses, Condition.clauses (.ofLayout? layout) request.conditions = .ok clauses
    ∧ s = (listing (ident table) clauses (orderTerms (.ofLayout? layout) request.order)
      request.page?).build
  := by
  rw [select] at h
  obtain ⟨clauses, hclauses, ⟨⟩⟩ := bind_eq_ok.mp h
  use clauses, hclauses
  rfl

theorem counting_of_count (h : count table conditions layout = .ok s) :
  ∃ clauses, Condition.clauses (.ofLayout? layout) conditions = .ok clauses
    ∧ s = (counting (ident table) clauses).build
  := by
  rw [count] at h
  obtain ⟨clauses, hclauses, ⟨⟩⟩ := bind_eq_ok.mp h
  use clauses, hclauses
  rfl

end

end FilterRequest

namespace FunctionCall

open FilterRequest

variable {c : FunctionCall} {s : Statement}

/-- The call of a function as a source of rows. -/
theorem rowsOf_of_source {head : String} {f : Fragment} (h : c.source head = .ok f) :
  ∃ values clauses, inputs c.args c.signature.inputs = .ok values
    ∧ Condition.clauses (.layout c.signature.outputs) c.request.conditions = .ok clauses
    ∧ f = rowsOf head (callFragment c.signature.name values) clauses
  := by
  rw [source] at h
  obtain ⟨values, hvalues, h⟩ := bind_eq_ok.mp h
  obtain ⟨clauses, hclauses, ⟨⟩⟩ := bind_eq_ok.mp h
  use values, clauses, hvalues, hclauses
  rfl

theorem listing_of_select (h : c.select = .ok s) :
  ∃ values clauses, inputs c.args c.signature.inputs = .ok values
    ∧ Condition.clauses (.layout c.signature.outputs) c.request.conditions = .ok clauses
    ∧ s = (listing (callFragment c.signature.name values) clauses
      (orderTerms c.orderScope c.request.order) c.request.page?).build
  := by
  rw [select] at h
  obtain ⟨f, hsource, ⟨⟩⟩ := bind_eq_ok.mp h
  obtain ⟨values, clauses, hvalues, hclauses, rfl⟩ := rowsOf_of_source hsource
  use values, clauses, hvalues, hclauses
  rfl

theorem counting_of_count (h : c.count = .ok s) :
  ∃ values clauses, inputs c.args c.signature.inputs = .ok values
    ∧ Condition.clauses (.layout c.signature.outputs) c.request.conditions = .ok clauses
    ∧ s = (counting (callFragment c.signature.name values) clauses).build
  := by
  rw [count] at h
  obtain ⟨f, hsource, ⟨⟩⟩ := bind_eq_ok.mp h
  obtain ⟨values, clauses, hvalues, hclauses, rfl⟩ := rowsOf_of_source hsource
  use values, clauses, hvalues, hclauses
  rfl

/-- There is one value for each input. -/
theorem length_of_inputs {args : ParameterBag} {columns : List ColumnInfo} {values : List Value}
    (h : inputs args columns = .ok values) :
  values.length = columns.length
  := by
  induction columns generalizing values with
  | nil =>
      obtain rfl := Except.ok.inj h
      rfl
  | cons column columns ih =>
      rw [inputs] at h
      obtain ⟨v, _, h⟩ := bind_eq_ok.mp h
      obtain ⟨vs, hinputs, ⟨⟩⟩ := bind_eq_ok.mp h
      rw [List.length_cons, List.length_cons, ih hinputs]

end FunctionCall

/-! ### Wordings -/

theorem FunctionCall.plain_callFragment (name : Ident) (values : List Value) :
  (callFragment name values).Plain
  := by
  simp only [callFragment, plain_append]
  have hvalues : (intercalate (text ", ") (values.map bound)).Plain := by
    apply plain_intercalate (plain_text (by decide))
    rw [List.forall_mem_map]
    intro v _
    apply plain_bound
  use ⟨⟨plain_ident name, plain_text (by decide)⟩, hvalues⟩, plain_text (by decide)

theorem FunctionCall.legible_callFragment (name : Ident) (values : List Value) :
  (callFragment name values).Legible
  := by
  have hvalues : (intercalate (text ", ") (values.map bound)).Legible := by
    apply legible_intercalate (by decide) (by decide)
    rw [List.forall_mem_map]
    intro v _
    apply legible_bound
  simp only [callFragment, append_assoc]
  apply legible_ident_append
  apply legible_text_append (by decide)
  apply hvalues.append (legible_text (by decide)) (opensApart_text (by decide))

/-- The outline of a call has a place for each value. -/
theorem FunctionCall.outline_callFragment (name : Ident) {values values' : List Value}
    (h : values.length = values'.length) :
  (callFragment name values).outline = (callFragment name values').outline
  := by
  have hvalues : values.map (outline ∘ bound) = values'.map (outline ∘ bound) := by
    have hbound : outline ∘ bound = fun _ => bound .null := rfl
    rw [hbound, List.map_const', List.map_const', h]
  simp only [callFragment, outline_append, outline_intercalate, List.map_map, hvalues]

theorem plain_orderFragment (terms : List (Ident × Direction)) (paged : Bool) :
  (orderFragment terms paged).Plain
  := by
  rw [orderFragment]
  split
  · split
    · apply plain_text (by decide)
    · apply plain_empty
  · apply plain_append.mpr ⟨plain_text (by decide), plain_joined (by decide) _⟩
    rw [List.forall_mem_map]
    rintro ⟨column, direction⟩ _
    apply plain_append.mpr ⟨plain_ident column, plain_text _⟩
    cases direction with
    | _ => decide

theorem legible_orderFragment (terms : List (Ident × Direction)) (paged : Bool) :
  (orderFragment terms paged).Legible
  := by
  rw [orderFragment]
  split
  · split
    · apply legible_text (by decide)
    · apply legible_empty
  · apply legible_text_append (by decide)
    apply legible_joined (by decide) (by decide)
    rw [List.forall_mem_map]
    rintro ⟨column, direction⟩ _
    apply legible_ident_append column (legible_text _)
    cases direction with
    | _ => decide

theorem opensApart_orderFragment (terms : List (Ident × Direction)) (paged : Bool) :
  (orderFragment terms paged).OpensApart
  := by
  rw [orderFragment]
  split
  · split
    · apply opensApart_text (by decide)
    · apply opensApart_empty
  · apply opensApart_text_append (by decide)

theorem Fragment.plain_window (offset fetch : Int64) :
  (window offset fetch).Plain
  := by
  simp only [window, plain_append]
  use ⟨⟨⟨plain_text (by decide), plain_bound _⟩, plain_text (by decide)⟩, plain_bound _⟩,
    plain_text (by decide)

theorem Fragment.legible_window (offset fetch : Int64) :
  (window offset fetch).Legible
  := by
  simp only [window, append_assoc]
  apply legible_text_append (by decide)
  apply legible_bound_append
  · apply legible_text_append (by decide)
    apply legible_bound_append _ (legible_text (by decide))
    apply opensApart_text (by decide)
  · apply opensApart_text_append (by decide)

theorem Fragment.opensApart_window (offset fetch : Int64) :
  (window offset fetch).OpensApart
  := by
  simp only [window, append_assoc]
  apply opensApart_text_append (by decide)

namespace FilterRequest

variable {head : String} {source : Fragment}

theorem plain_rowsOf (hhead : isWording head = true) (hsource : source.Plain)
    (clauses : List Clause) :
  (rowsOf head source clauses).Plain
  := by
  simp only [rowsOf, plain_append]
  use ⟨plain_text hhead, hsource⟩, Clause.plain_whereFragment clauses

theorem legible_rowsOf (hhead : isUndollared head = true) (hsource : source.Legible)
    (clauses : List Clause) :
  (rowsOf head source clauses).Legible
  := by
  rw [rowsOf, append_assoc]
  apply legible_text_append hhead
  apply hsource.append (Clause.legible_whereFragment clauses)
    (Clause.opensApart_whereFragment clauses)

theorem outline_rowsOf (head : String) {source' : Fragment} {clauses clauses' : List Clause}
    (hsource : source.outline = source'.outline)
    (hclauses : clauses.map (·.fragment.outline) = clauses'.map (·.fragment.outline)) :
  (rowsOf head source clauses).outline = (rowsOf head source' clauses').outline
  := by
  simp only [rowsOf, outline_append, hsource, Clause.outline_whereFragment hclauses]

theorem plain_cut (terms : List (Ident × Direction)) (page : Option (Int64 × Int64)) :
  (cut terms page).Plain
  := by
  apply plain_append.mpr ⟨plain_orderFragment terms page.isSome, _⟩
  cases page with
  | none => apply plain_empty
  | some page => apply plain_window

theorem legible_cut (terms : List (Ident × Direction)) (page : Option (Int64 × Int64)) :
  (cut terms page).Legible
  := by
  apply (legible_orderFragment terms page.isSome).append
  · cases page with
    | none => apply legible_empty
    | some page => apply legible_window
  · cases page with
    | none => apply opensApart_empty
    | some page => apply opensApart_window

theorem opensApart_cut (terms : List (Ident × Direction)) (page : Option (Int64 × Int64)) :
  (cut terms page).OpensApart
  := by
  apply (opensApart_orderFragment terms page.isSome).append
  cases page with
  | none => apply opensApart_empty
  | some page => apply opensApart_window

theorem plain_listing (hsource : source.Plain) (clauses : List Clause)
    (terms : List (Ident × Direction)) (page : Option (Int64 × Int64)) :
  (listing source clauses terms page).Plain
  := by
  apply plain_append.mpr ⟨plain_rowsOf (by decide) hsource clauses, plain_cut terms page⟩

theorem legible_listing (hsource : source.Legible) (clauses : List Clause)
    (terms : List (Ident × Direction)) (page : Option (Int64 × Int64)) :
  (listing source clauses terms page).Legible
  := by
  apply (legible_rowsOf (by decide) hsource clauses).append (legible_cut terms page)
    (opensApart_cut terms page)

theorem plain_counting (hsource : source.Plain) (clauses : List Clause) :
  (counting source clauses).Plain
  := plain_rowsOf (by decide) hsource clauses

theorem legible_counting (hsource : source.Legible) (clauses : List Clause) :
  (counting source clauses).Legible
  := legible_rowsOf (by decide) hsource clauses

theorem outline_listing {source' : Fragment} {clauses clauses' : List Clause}
    (hsource : source.outline = source'.outline)
    (hclauses : clauses.map (·.fragment.outline) = clauses'.map (·.fragment.outline))
    (terms : List (Ident × Direction)) (page : Option (Int64 × Int64)) :
  (listing source clauses terms page).outline = (listing source' clauses' terms page).outline
  := by
  rw [listing, listing, outline_append, outline_append, outline_rowsOf _ hsource hclauses]

end FilterRequest

end BoundSql
