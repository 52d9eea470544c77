import BoundSql.Clause
import BoundSql.Entity.Shape

/-!
# Restrictions

The rows that a statement concerns are restricted by predicates on the fields
of an entity, one after the other. The first error sticks: an unknown field
spoils the restriction whatever follows. A restriction that requires nothing is
refused, so that no statement concerns all rows by accident.
-/

namespace BoundSql

open Fragment

/-- What is asked of a field. -/
inductive Predicate where
  | compare (comparison : Comparison) (value : Value)
  | like (pattern : String)
  | between (low high : Value)
  | among (values : List Value)
  | notAmong (values : List Value)
  | null
  | notNull
  deriving Repr

/-- What is asked of a text that contains the given one; its wildcards stay in force. -/
def Predicate.containing (s : String) : Predicate :=
  .like ("%" ++ s ++ "%")

/-- What is required of a column. -/
structure Requirement where
  column : Ident
  predicate : Predicate
  deriving Repr

/-- The requirement of a predicate on a column. To be outside of no values requires nothing. -/
def Predicate.requirement? (column : Ident) : Predicate → Option Requirement
  | .notAmong [] => none
  | p => some ⟨column, p⟩

namespace Requirement

/-- The operator of a comparison with blanks around it. -/
def operator : Comparison → String
  | .equal => " = "
  | .notEqual => " <> "
  | .greater => " > "
  | .greaterOrEqual => " >= "
  | .less => " < "
  | .lessOrEqual => " <= "

/-- A column, an operator, and a value. -/
def compared (column : Ident) (operator : String) (v : Value) : Fragment :=
  ident column ++ text operator ++ bound v

/-- A requirement as a fragment. Nothing is among no values. -/
def fragment (r : Requirement) : Fragment :=
  match r.predicate with
  | .compare comparison v => compared r.column (operator comparison) v
  | .like pattern => compared r.column " LIKE " (.text pattern)
  | .between low high =>
    ident r.column ++ text " BETWEEN " ++ bound low ++ text " AND " ++ bound high
  | .among vs =>
    if vs.isEmpty then text "1 = 0"
    else ident r.column ++ text " IN (" ++ boundList vs ++ text ")"
  | .notAmong vs => ident r.column ++ text " NOT IN (" ++ boundList vs ++ text ")"
  | .null => ident r.column ++ text " IS NULL"
  | .notNull => ident r.column ++ text " IS NOT NULL"

end Requirement

/-- Requirements of which there is at least one. -/
structure Restriction where
  requirements : List Requirement
  nonempty : requirements ≠ []
  deriving Repr

/-- The restriction as the last part of a statement. -/
def Restriction.fragment (r : Restriction) : Fragment :=
  text "WHERE " ++ joined " AND " (r.requirements.map Requirement.fragment)

/-- A restriction under construction: its requirements, and the first error. -/
structure WhereBuilder where
  entity : Except Error Entity
  requirements : List Requirement
  failure : Option Error

namespace WhereBuilder

/-- The start of a restriction of an entity's rows. -/
def start (entity : Except Error Entity) : WhereBuilder :=
  ⟨entity, [], none⟩

/-- Whether nothing is required so far. -/
def isEmpty (b : WhereBuilder) : Bool :=
  b.requirements.isEmpty

/-- An error, unless there was one before. -/
def fail (b : WhereBuilder) (e : Error) : WhereBuilder :=
  { b with failure := b.failure.or (some e) }

/-- A predicate on the field that a name addresses. -/
def field (b : WhereBuilder) (name : String) (p : Predicate) : WhereBuilder :=
  match b.entity with
  | .error _ => b
  | .ok e =>
    match e.field? name with
    | none => b.fail (.unknownField e.name name)
    | some f => { b with requirements := b.requirements ++ (p.requirement? f.column).toList }

/-- A predicate that is asked only when it is given. -/
def optional (b : WhereBuilder) (name : String) (p : Option Predicate) : WhereBuilder :=
  p.elim b (b.field name)

/-- The rows that are not marked as deleted. -/
def notDeleted (b : WhereBuilder) : WhereBuilder :=
  match b.entity with
  | .error _ => b
  | .ok e =>
    match e.softDeleteColumn? with
    | none => b.fail (.badEntity e.name .noSoftDelete)
    | some column =>
      { b with requirements := b.requirements ++ [⟨column, .compare .equal (.bool false)⟩] }

/-- The rows whose field equals a value. -/
def eq (b : WhereBuilder) (name : String) (v : Value) : WhereBuilder :=
  b.field name (.compare .equal v)

/-- The rows whose field differs from a value. -/
def ne (b : WhereBuilder) (name : String) (v : Value) : WhereBuilder :=
  b.field name (.compare .notEqual v)

/-- The rows whose field is greater than a value. -/
def gt (b : WhereBuilder) (name : String) (v : Value) : WhereBuilder :=
  b.field name (.compare .greater v)

/-- The rows whose field is a value or greater. -/
def gte (b : WhereBuilder) (name : String) (v : Value) : WhereBuilder :=
  b.field name (.compare .greaterOrEqual v)

/-- The rows whose field is less than a value. -/
def lt (b : WhereBuilder) (name : String) (v : Value) : WhereBuilder :=
  b.field name (.compare .less v)

/-- The rows whose field is a value or less. -/
def lte (b : WhereBuilder) (name : String) (v : Value) : WhereBuilder :=
  b.field name (.compare .lessOrEqual v)

/-- The rows whose field contains a text. -/
def like (b : WhereBuilder) (name : String) (s : String) : WhereBuilder :=
  b.field name (.containing s)

/-- The rows whose field matches a pattern, which is bound as it is. -/
def likePattern (b : WhereBuilder) (name : String) (pattern : String) : WhereBuilder :=
  b.field name (.like pattern)

/-- The rows whose field is one of several values. -/
def inList (b : WhereBuilder) (name : String) (vs : List Value) : WhereBuilder :=
  b.field name (.among vs)

/-- The rows whose field is none of several values. -/
def notIn (b : WhereBuilder) (name : String) (vs : List Value) : WhereBuilder :=
  b.field name (.notAmong vs)

/-- The rows whose field lies between two values. -/
def between (b : WhereBuilder) (name : String) (low high : Value) : WhereBuilder :=
  b.field name (.between low high)

/-- The rows whose field is null. -/
def isNull (b : WhereBuilder) (name : String) : WhereBuilder :=
  b.field name .null

/-- The rows whose field is not null. -/
def isNotNull (b : WhereBuilder) (name : String) : WhereBuilder :=
  b.field name .notNull

/-- The rows whose field equals a value, if there is one. -/
def eqOptional (b : WhereBuilder) (name : String) (v : Option Value) : WhereBuilder :=
  b.optional name (v.map (.compare .equal))

/-- The rows whose field differs from a value, if there is one. -/
def neOptional (b : WhereBuilder) (name : String) (v : Option Value) : WhereBuilder :=
  b.optional name (v.map (.compare .notEqual))

/-- The rows whose field is a value or greater, if there is one. -/
def gteOptional (b : WhereBuilder) (name : String) (v : Option Value) : WhereBuilder :=
  b.optional name (v.map (.compare .greaterOrEqual))

/-- The rows whose field is a value or less, if there is one. -/
def lteOptional (b : WhereBuilder) (name : String) (v : Option Value) : WhereBuilder :=
  b.optional name (v.map (.compare .lessOrEqual))

/-- The rows whose field contains a text, if there is one. -/
def likeOptional (b : WhereBuilder) (name : String) (s : Option String) : WhereBuilder :=
  b.optional name (s.map .containing)

/-- The finished restriction: the first error counts, and something has to be required. -/
def build (b : WhereBuilder) : Except Error Restriction :=
  match b.entity, b.failure with
  | .error e, _ => .error e
  | .ok _, some e => .error e
  | .ok _, none =>
    if h : b.requirements = [] then .error .emptyPredicate else .ok ⟨b.requirements, h⟩

end WhereBuilder

end BoundSql
