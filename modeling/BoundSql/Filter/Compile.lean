import BoundSql.Error
import BoundSql.Filter.Request
import BoundSql.Layout

/-!
# Filters

A filter keeps the conditions of a request whose column is in scope and whose
operands are there; the others drop out without a trace. An operand that is
there has to be a value of the column's type, else the filter fails. Order
terms drop out in the same way, and a page needs some order to be cut from.
-/

namespace BoundSql

open BoundSql.Text

/-- The columns that a request may name: any, or those of a layout, whose types then count. -/
inductive Scope where
  | any
  | layout (l : Layout)
  deriving DecidableEq, Repr

namespace Scope

/-- The scope of a layout, if there is one. -/
def ofLayout? (l : Option Layout) : Scope :=
  l.elim .any .layout

/-- The column of a name, with its type if the scope declares one. -/
def resolve? (s : Scope) (name : String) : Option (Ident × Option ColumnType) :=
  let name := trim name
  if name = "" then none
  else match s with
    | .any => (Ident.column? name).toOption.map (·, none)
    | .layout l =>
      (l.find? name).bind fun c => (Ident.column? c.name).toOption.map (·, some c.type)

end Scope

/-- Whether an operand counts as not given: null, or blanks where these are no value. -/
def isSkipped (ty : ColumnType) (j : Json) : Bool :=
  j.isNull || (j.isBlankString && !ty.acceptsBlank)

namespace Condition

/-- An operand as a value of the column's type, nothing when it is not given. -/
def operand (column : Ident) (ty : ColumnType) : Option Json → Except Error (Option Value)
  | none => .ok none
  | some j =>
    if isSkipped ty j then .ok none
    else match Value.coerce ty j with
      | .ok v => .ok (some v)
      | .error r => .error (.invalidValue column.text r)

/-- The operands of a list that are given. -/
def operands (column : Ident) (ty : ColumnType) : List Json → Except Error (List Value)
  | [] => .ok []
  | j :: r => do
    let v ← operand column ty (some j)
    let vs ← operands column ty r
    pure (v.toList ++ vs)

/-- The text to look for: a string that is not blank, a number or a truth value. -/
def searchText? : Option Json → Option String
  | some (.string s) => if isBlank s then none else some s
  | some (.number n) => some n.toText
  | some (.bool b) => some (Value.boolText b)
  | _ => none

/-- The elements of a list condition: the list of values, else the value itself if it is a list. -/
def elements? (c : Condition) : Option (List Json) :=
  match c.values, c.value with
  | some values, _ => some values
  | none, some (.array values) => some values
  | _, _ => none

/-- The clause of a condition on a column of a type; none when operands are not given. Nothing is in
an empty list, and everything is outside it. -/
def clauseOn (c : Condition) (column : Ident) (ty : ColumnType) : Except Error (Option Clause) :=
  match c.operator with
  | .unset => .ok none
  | .compare comparison => do
    let v ← operand column ty c.value
    pure (v.map (.compare column comparison))
  | .like => .ok ((searchText? c.value).map fun s =>
      .like column (ty != .text) (Clause.containing s))
  | .between => do
    let low ← operand column ty c.value
    let high ← operand column ty c.value2
    match low, high with
    | some low, some high => pure (some (.between column low high))
    | _, _ => pure none
  | .among =>
    match c.elements? with
    | none => .ok none
    | some elements => do
      let vs ← operands column ty elements
      pure (some (if vs.isEmpty then .never else .among column vs))
  | .notAmong =>
    match c.elements? with
    | none => .ok none
    | some elements => do
      let vs ← operands column ty elements
      pure (if vs.isEmpty then none else some (.notAmong column vs))

/-- The type of a condition's column: as the scope declares it, else as the condition does, else
text. -/
def columnType (c : Condition) (declared : Option ColumnType) : ColumnType :=
  declared.getD (c.declaredType.elim .text .ofDeclared)

/-- The clause of a condition, none when it drops out. -/
def clause (scope : Scope) (c : Condition) : Except Error (Option Clause) :=
  if c.operator = .unset then .ok none
  else match scope.resolve? c.column with
    | none => .ok none
    | some (column, declared) => c.clauseOn column (c.columnType declared)

/-- The clauses of conditions in order; the first operand that does not fit is the error. -/
def clauses (scope : Scope) : List Condition → Except Error (List Clause)
  | [] => .ok []
  | c :: r => do
    let first ← c.clause scope
    let rest ← clauses scope r
    pure (first.toList ++ rest)

end Condition

namespace Direction

/-- The word for a direction with a blank in front of it. -/
def word : Direction → String
  | .ascending => " ASC"
  | .descending => " DESC"

end Direction

open Fragment

/-- The order terms of a request whose columns are in scope. -/
def orderTerms (scope : Scope) (order : List OrderTerm) : List (Ident × Direction) :=
  order.filterMap fun t => (scope.resolve? t.column).map fun (column, _) => (column, t.direction)

/-- The order of a result. A page without order terms is cut from an order that says nothing. -/
def orderFragment (terms : List (Ident × Direction)) (paged : Bool) : Fragment :=
  if terms.isEmpty then if paged then text " ORDER BY (SELECT NULL)" else empty
  else text " ORDER BY "
    ++ joined ", " (terms.map fun (column, direction) => ident column ++ text direction.word)

/-- The order and the page of a listing. -/
def orderAndPage (scope : Scope) (order : List OrderTerm) (paging : Option Paging) : Fragment :=
  let page := paging.bind Paging.window?
  orderFragment (orderTerms scope order) page.isSome
    ++ page.elim empty fun (offset, fetch) => window offset fetch

namespace FilterRequest

/-- The rows of a table that a request asks for. -/
def select (table : Ident) (request : FilterRequest) (layout : Option Layout) :
    Except Error Statement := do
  let scope := Scope.ofLayout? layout
  let clauses ← Condition.clauses scope request.conditions
  pure (text "SELECT * FROM " ++ ident table ++ Clause.whereFragment clauses
    ++ orderAndPage scope request.order request.paging).build

/-- The number of rows of a table that conditions let through. -/
def count (table : Ident) (conditions : List Condition) (layout : Option Layout) :
    Except Error Statement := do
  let clauses ← Condition.clauses (Scope.ofLayout? layout) conditions
  pure (text "SELECT COUNT(*) FROM " ++ ident table ++ Clause.whereFragment clauses).build

end FilterRequest

end BoundSql
