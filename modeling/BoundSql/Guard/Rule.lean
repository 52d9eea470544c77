import BoundSql.Fragment
import BoundSql.Guard.Predicate
import BoundSql.ParameterBag

/-!
# Guard rules

A rule guards the deletions of an owner. Its predicate is asked with the
parameters that its markers name, and the answer decides whether the rule
passes.
-/

namespace BoundSql

/-- A rule. Rules are asked by order, and by number where the order is the same. -/
structure GuardRule where
  id : Int64
  owner : String
  name : String
  predicate : String
  enabled : Bool
  order : Int32
  deriving DecidableEq, Repr

/-- What the rules say about a deletion. -/
inductive Decision where
  | allowed
  | noRules
  | blocked (rule : String)
  | invalid (rule : String) (fault : RuleFault)
  deriving DecidableEq, Repr

/-- What came back from a predicate in the column that was looked for. -/
inductive ProbeOutcome where
  | noRow
  | missingColumn
  | value (v : Value)
  deriving Repr

namespace GuardRule

/-- The rule of a JSON record. -/
def ofJson? (j : Json) : Option GuardRule := do
  let r ← j.record? ["id", "ownerEntityId", "name", "predicateSql", "enabled", "evaluationOrder"]
  let id ← r.required "id" Json.asInt64?
  let owner ← r.required "ownerEntityId" Json.asString?
  let name ← r.required "name" Json.asString?
  let predicate ← r.required "predicateSql" Json.asString?
  let enabled ← r.required "enabled" Json.asBool?
  let order ← r.required "evaluationOrder" Json.asInt32?
  pure { id, owner, name, predicate, enabled, order }

/-- The rule as JSON. -/
def toJson (r : GuardRule) : Json :=
  .object
    [("enabled", .bool r.enabled),
     ("evaluationOrder", .number (.ofInt64 r.order.toInt64)),
     ("id", .number (.ofInt64 r.id)),
     ("name", .string r.name),
     ("ownerEntityId", .string r.owner),
     ("predicateSql", .string r.predicate)]

/-- Whether a rule is asked no later than another. -/
def precedes (r s : GuardRule) : Bool :=
  r.order < s.order || (r.order == s.order && r.id ≤ s.id)

/-- The enabled rules in the order in which they are asked. -/
def asked (rules : List GuardRule) : List GuardRule :=
  (rules.filter (·.enabled)).mergeSort precedes

/-- The statement that asks a rule, with the values of its markers in order, or why it cannot be
asked. -/
def question (r : GuardRule) (params : ParameterBag) : Except RuleFault Statement :=
  match Predicate.fault? r.predicate with
  | some fault => .error fault
  | none =>
    let names := Marker.names r.predicate
    let missing := names.filter (!params.contains ·)
    if missing.isEmpty then
      .ok ⟨Marker.withPlaceholders names r.predicate,
        names.map fun n => ((params.get? n).map Value.ofJson).getD .null⟩
    else .error (.missingParameters missing)

end GuardRule

/-- Whether the rule behind an outcome lets the deletion pass, or why the outcome says nothing. -/
def ProbeOutcome.verdict (column : String) : ProbeOutcome → Except RuleFault Bool
  | .noRow => .error .noRow
  | .missingColumn => .error (.missingColumn column)
  | .value .null => .error (.nullColumn column)
  | .value v =>
    match v.convert .boolean with
    | .ok (.bool b) => .ok b
    | _ => .error (.notBoolean column)

namespace Decision

/-- The name that stands for the absence of rules. -/
def noRulesName : String := "<no enabled rules>"

/-- Whether the deletion may go ahead. -/
def isAllowed : Decision → Bool
  | .allowed => true
  | _ => false

/-- The name of the rule that decided. -/
def ruleName? : Decision → Option String
  | .allowed => none
  | .noRules => some noRulesName
  | .blocked rule => some rule
  | .invalid rule _ => some rule

/-- Why the rule that decided is invalid. -/
def fault? : Decision → Option RuleFault
  | .invalid _ fault => some fault
  | _ => none

/-- The decision as an error, unless the deletion may go ahead. -/
def result : Decision → Except Error Unit
  | .allowed => .ok ()
  | .noRules => .error (.ruleBlocked noRulesName)
  | .blocked rule => .error (.ruleBlocked rule)
  | .invalid rule fault => .error (.ruleInvalid rule fault)

end Decision

end BoundSql
