import BoundSql.Clause
import BoundSql.Json.Record

/-!
# Filter requests

A request lists conditions, order terms and a page. It comes from JSON and
goes back to it: missing fields have defaults, and a null leaves out what may
be left out.
-/

namespace BoundSql

/-- What a condition asks of its column. -/
inductive Operator where
  | compare (comparison : Comparison)
  | like
  | between
  | among
  | notAmong
  | unset
  deriving DecidableEq, Repr

/-- A condition on a column with its operands. A type declared here counts where no layout declares
one. -/
structure Condition where
  column : String := ""
  operator : Operator := .unset
  value : Option Json := none
  value2 : Option Json := none
  values : Option (List Json) := none
  declaredType : Option String := none
  deriving Repr

/-- The direction of an order term. -/
inductive Direction where
  | ascending
  | descending
  deriving DecidableEq, Repr

/-- A column to order by. -/
structure OrderTerm where
  column : String
  direction : Direction
  deriving DecidableEq, Repr

/-- A page by its number and the number of rows on each page. -/
structure Paging where
  page : Option Int64 := none
  pageSize : Option Int64 := none
  deriving DecidableEq, Repr

/-- Everything that a listing may be asked for. -/
structure FilterRequest where
  conditions : List Condition := []
  order : List OrderTerm := []
  paging : Option Paging := none
  deriving Repr

/-- The rows that a page leaves out and takes: pages and page sizes below one count as one, and the
number left out stops at the largest 64-bit integer. Both have to be given. -/
def Paging.window? (p : Paging) : Option (Int64 × Int64) :=
  match p.page, p.pageSize with
  | some page, some size =>
    let page := max page.toInt 1
    let size := max size.toInt 1
    some (Int64.ofInt (min ((page - 1) * size) Int64.maxValue.toInt), Int64.ofInt size)
  | _, _ => none

namespace Operator

/-- The names of the operators. -/
def names : List (String × Operator) :=
  [("Equal", .compare .equal), ("NotEqual", .compare .notEqual), ("Like", .like),
   ("Between", .between), ("GreaterThan", .compare .greater),
   ("GreaterOrEqual", .compare .greaterOrEqual), ("LessThan", .compare .less),
   ("LessOrEqual", .compare .lessOrEqual), ("In", .among), ("NotIn", .notAmong),
   ("None", .unset)]

/-- The name of an operator. -/
def name : Operator → String
  | .compare .equal => "Equal"
  | .compare .notEqual => "NotEqual"
  | .compare .greater => "GreaterThan"
  | .compare .greaterOrEqual => "GreaterOrEqual"
  | .compare .less => "LessThan"
  | .compare .lessOrEqual => "LessOrEqual"
  | .like => "Like"
  | .between => "Between"
  | .among => "In"
  | .notAmong => "NotIn"
  | .unset => "None"

/-- The operator of a name. -/
def ofName? (s : String) : Option Operator :=
  names.lookup s

end Operator

/-- The direction of a name, which may be in lower or in upper case throughout. -/
def Direction.ofName? (s : String) : Option Direction :=
  [("Asc", .ascending), ("asc", .ascending), ("ASC", .ascending),
   ("Desc", .descending), ("desc", .descending), ("DESC", .descending)].lookup s

/-- The name of a direction. -/
def Direction.name : Direction → String
  | .ascending => "Asc"
  | .descending => "Desc"

namespace Condition

/-- The condition of a JSON record. -/
def ofJson? (j : Json) : Option Condition := do
  let r ← j.record? ["column", "operator", "value", "value2", "values", "declaredType"]
  let column ← r.withDefault "column" "" Json.asString?
  let operator ← r.withDefault "operator" .unset fun v => v.asChoice?.bind Operator.ofName?
  let value ← r.optional "value" some
  let value2 ← r.optional "value2" some
  let values ← r.optional "values" (Json.asList? some)
  let declaredType ← r.optional "declaredType" Json.asString?
  pure { column, operator, value, value2, values, declaredType }

/-- The condition as JSON. -/
def toJson (c : Condition) : Json :=
  .object
    [("column", .string c.column),
     ("declaredType", c.declaredType.elim .null .string),
     ("operator", .string c.operator.name),
     ("value", c.value.getD .null),
     ("value2", c.value2.getD .null),
     ("values", c.values.elim .null .array)]

end Condition

namespace OrderTerm

/-- The order term of a JSON record. -/
def ofJson? (j : Json) : Option OrderTerm := do
  let r ← j.record? ["column", "direction"]
  let column ← r.required "column" Json.asString?
  let direction ← r.withDefault "direction" .ascending fun v =>
    v.asChoice?.bind Direction.ofName?
  pure { column, direction }

/-- The order term as JSON. -/
def toJson (t : OrderTerm) : Json :=
  .object [("column", .string t.column), ("direction", .string t.direction.name)]

end OrderTerm

namespace Paging

/-- The page of a JSON record. -/
def ofJson? (j : Json) : Option Paging := do
  let r ← j.record? ["page", "pageSize"]
  let page ← r.optional "page" Json.asInt64?
  let pageSize ← r.optional "pageSize" Json.asInt64?
  pure { page, pageSize }

/-- The page as JSON. -/
def toJson (p : Paging) : Json :=
  let number (n : Option Int64) : Json := n.elim .null fun n => .number (.ofInt64 n)
  .object [("page", number p.page), ("pageSize", number p.pageSize)]

end Paging

namespace FilterRequest

/-- The request of a JSON record. -/
def ofJson? (j : Json) : Option FilterRequest := do
  let r ← j.record? ["conditions", "order", "paging"]
  let conditions ← r.withDefault "conditions" [] (Json.asList? Condition.ofJson?)
  let order ← r.withDefault "order" [] (Json.asList? OrderTerm.ofJson?)
  let paging ← r.optional "paging" Paging.ofJson?
  pure { conditions, order, paging }

/-- The request as JSON. -/
def toJson (r : FilterRequest) : Json :=
  .object
    [("conditions", .array (r.conditions.map Condition.toJson)),
     ("order", .array (r.order.map OrderTerm.toJson)),
     ("paging", r.paging.elim .null Paging.toJson)]

end FilterRequest

end BoundSql
