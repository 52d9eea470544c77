import BoundSql.Session.Connection

/-!
# Transactions

A batch makes calls one after the other and ends with the first that fails.
Inside a transaction the batch is committed when no call fails and rolled back
otherwise. A transaction within another one is a savepoint.
-/

namespace BoundSql

open BoundSql.Text

/-- The text of a command. -/
def Control.text : Control → String
  | .start => "START TRANSACTION"
  | .commit => "COMMIT"
  | .rollback => "ROLLBACK"
  | .savepoint depth => "SAVEPOINT sp_" ++ decimalText depth
  | .release depth => "RELEASE sp_" ++ decimalText depth
  | .rollbackTo depth => "ROLLBACK TO sp_" ++ decimalText depth

/-- The results of calls, and the failure with which they ended. -/
structure Batch (α : Type) where
  results : List (Except Error α)
  failure : Option Error

/-- What is done on a connection apart from any signal. -/
abbrev Activity := StateM Connection

namespace Connection

variable {α : Type}

/-- Sends a command; the database may refuse it. -/
def command (c : Control) : Activity (Option DatabaseError) := fun conn =>
  (conn.refused.lookup c.text, conn.record (.control c))

/-- Makes calls in order up to the first that fails. -/
def batch : List (Activity (Except Error α)) → Activity (Batch α)
  | [] => pure ⟨[], none⟩
  | call :: r => do
    match ← call with
    | .error e => pure ⟨[.error e], some e⟩
    | .ok a =>
      let rest ← batch r
      pure ⟨.ok a :: rest.results, rest.failure⟩

/-- The command that begins a transaction in which `depth` others are open. -/
def opening (depth : Nat) : Control :=
  if depth = 0 then .start else .savepoint depth

/-- The command that commits such a transaction. -/
def closing (depth : Nat) : Control :=
  if depth = 0 then .commit else .release depth

/-- The command that rolls such a transaction back. -/
def undoing (depth : Nat) : Control :=
  if depth = 0 then .rollback else .rollbackTo depth

/-- A batch with one transaction more open. -/
def inside (body : Activity (Batch α)) : Activity (Batch α) := do
  let depth := (← get).depth
  modify fun c => { c with depth := depth + 1 }
  let b ← body
  modify fun c => { c with depth := depth }
  pure b

/-- A batch inside a transaction. -/
def transaction (body : Activity (Batch α)) : Activity (Batch α) := do
  let depth := (← get).depth
  match ← command (opening depth) with
  | some e => pure ⟨[], some e.error⟩
  | none =>
    let b ← inside body
    match b.failure with
    | none =>
      let refused ← command (closing depth)
      pure { b with failure := refused.map DatabaseError.error }
    | some e =>
      match ← command (undoing depth) with
      | none => pure b
      | some _ => pure { b with failure := some (.rollbackFailed e) }

/-- A batch inside an open transaction, which is committed whatever becomes of the batch. -/
def committed (body : Activity (Batch α)) : Activity (Batch α) := do
  let refusal (e : DatabaseError) : Error := .query (.database e.code)
  let depth := (← get).depth
  match ← command (opening depth) with
  | some e => pure ⟨[], some (refusal e)⟩
  | none =>
    let b ← inside body
    match ← command (closing depth) with
    | none => pure b
    | some e => pure { b with failure := some (refusal e) }

end Connection

end BoundSql
