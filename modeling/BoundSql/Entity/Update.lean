import BoundSql.Entity.Statement
import BoundSql.FieldBag

/-!
# Updates

An update assigns values to fields of one row, picked by its key. Key, token
and generated fields cannot be assigned, and nulls are left out unless they
are asked for. With a concurrency token the row has to carry the token that
was read, and every update moves the token on by one.
-/

namespace BoundSql

open Fragment

/-- An update under construction. -/
structure Update where
  id : Value
  sets : FieldBag := .empty
  includesNulls : Bool := false
  audits : Bool := false
  token : Option Value := none

/-- The assignments of an update that may go ahead. -/
structure UpdatePlan where
  entity : Entity
  assignments : List (Field × Value)

namespace Update

/-- The update with a field set. -/
def set (u : Update) (field : String) (v : Value) : Update :=
  { u with sets := u.sets.set field v }

/-- The assignments with the value of a field replaced, or with the field added at the end. -/
def assign (f : Field) (v : Value) : List (Field × Value) → List (Field × Value)
  | [] => [(f, v)]
  | (g, w) :: r => if g = f then (g, v) :: r else (g, w) :: assign f v r

/-- Whether an update may assign the field. -/
def isAssignable (f : Field) : Bool :=
  !f.isKey && !f.isToken && !f.isGenerated

/-- The assignments of named values on top of others. A name that addresses no field, or one that
cannot be assigned, is an error even with a null. -/
def assignments (e : Entity) (includesNulls : Bool) (before : List (Field × Value)) :
    List (String × Value) → Except Error (List (Field × Value))
  | [] => .ok before
  | (name, v) :: r =>
    match e.field? name with
    | none => .error (.unknownField e.name name)
    | some f =>
      if !isAssignable f then .error (.fixedField e.name name)
      else if v.isNull && !includesNulls then assignments e includesNulls before r
      else assignments e includesNulls (assign f v before) r

/-- The plan of an update. The stamp of an audited update owns the editor's columns. -/
def plan (u : Update) (e : Entity) : Except Error UpdatePlan := do
  let all ← assignments e u.includesNulls [] u.sets.fields
  if u.audits && !e.audited then throw (.badEntity e.name .noAudit)
  let kept := if u.audits then all.filter fun (f, _) => !Audit.isEditor f.column else all
  if kept.isEmpty then throw .nothingToUpdate
  match e.token, u.token with
  | some _, none => throw (.missingToken e.name)
  | none, some _ => throw (.badEntity e.name .noToken)
  | _, _ => pure ⟨e, kept⟩

/-- The assignments of the stamp. -/
def stampFragments (s : Stamp) : List Fragment :=
  [Entity.assignment Audit.updatedBy (.text s.user),
   Entity.assignment Audit.updatedAt (.timestampTz s.time)]

/-- The assignment that moves a token on. -/
def bumpFragment (token : Field) : Fragment :=
  ident token.column ++ text " = " ++ ident token.column ++ text " + 1"

/-- The statement of a plan under a stamp, which only an audited update looks at. -/
def render (u : Update) (plan : UpdatePlan) (stamp : Option Stamp) : Except Error Statement := do
  let e := plan.entity
  let edit ← match u.audits, stamp with
    | false, _ => pure []
    | true, some s => pure (stampFragments s)
    | true, none => throw .stampMissing
  let sets := plan.assignments.map (fun (f, v) => Entity.assignment f.column v) ++ edit
    ++ e.token.toList.map bumpFragment
  let tokenCheck := match e.token, u.token with
    | some f, some v => text " AND " ++ Entity.assignment f.column v
    | _, _ => empty
  pure (text "UPDATE " ++ ident e.table ++ text " SET " ++ joined ", " sets ++ text " WHERE "
    ++ Entity.assignment e.key.column u.id ++ tokenCheck).build

/-- The statement of an update. -/
def compile (u : Update) (e : Entity) (stamp : Option Stamp) : Except Error Statement := do
  u.render (← u.plan e) stamp

end Update

end BoundSql
