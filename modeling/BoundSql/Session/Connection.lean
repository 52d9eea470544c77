import BoundSql.Fragment
import BoundSql.Session.Row
import BoundSql.Task

/-!
# Connections

A connection sends statements and receives replies. A statement is prepared
first; the database then declares the types of its parameters, the values are
written for these types, and the statement is executed. The record of a
connection lists what was sent.

Here the replies of the database are given from the start. Once they are used
up, every statement fails.
-/

namespace BoundSql

/-- An error that the database reports. -/
structure DatabaseError where
  code : String
  message : String := ""
  constraint : Option String := none
  deriving DecidableEq, Repr

/-- When a statement fails. -/
inductive Stage where
  | preparing
  | executing
  deriving DecidableEq, Repr

/-- The reply of the database to a statement. All parameters are texts unless types are declared. -/
structure Reply where
  types : Option (List WireType) := none
  columns : List (String × WireType) := []
  rows : List (List (Option (List UInt8))) := []
  affected : Nat := 0
  failure : Option (DatabaseError × Stage) := none
  firing : Firing := .never

/-- A command that begins or ends a transaction, or a savepoint within one. -/
inductive Control where
  | start
  | commit
  | rollback
  | savepoint (depth : Nat)
  | release (depth : Nat)
  | rollbackTo (depth : Nat)
  deriving DecidableEq, Repr

/-- What was sent: a statement with its parameters, if they were written at all, or a command. -/
inductive Sent where
  | statement (sql : String) (params : Option (List (Option (List UInt8))))
  | control (c : Control)
  deriving DecidableEq, Repr

/-- A connection: how many transactions are open in each other, the replies to come, the commands
that fail, and what was sent. -/
structure Connection where
  depth : Nat := 0
  replies : List Reply := []
  refused : List (String × DatabaseError) := []
  sent : List Sent := []

namespace DatabaseError

/-- The error of a statement or a command that the database refuses. -/
def error (e : DatabaseError) : Error :=
  .ofState e.code e.message e.constraint

/-- The error for which there is no reply left. -/
def noReply : DatabaseError := { code := "XX000" }

end DatabaseError

namespace Reply

/-- The rows with their columns. -/
def table (r : Reply) : List Row :=
  r.rows.map fun cells =>
    (r.columns.zip cells).map fun ((column, type), bytes) => ⟨column, type, bytes⟩

/-- The values written for types, one after the other; the first that cannot be written is the
error. -/
def writtenFrom (index : Nat) : List (WireType × Value) →
    Except Error (List (Option (List UInt8)))
  | [] => .ok []
  | (type, v) :: r => do
    let bytes ← (v.send type).mapError fun _ => .query (.parameter index)
    let rest ← writtenFrom (index + 1) r
    pure (bytes :: rest)

/-- The parameters of a statement, written for the types that the reply declares. -/
def written (r : Reply) (params : List Value) : Except Error (List (Option (List UInt8))) :=
  let types := r.types.getD (params.map fun _ => .text)
  if types.length = params.length then writtenFrom 0 (types.zip params)
  else .error (.query (.parameterCount types.length params.length))

end Reply

/-- A request to the database. -/
abbrev Query (α : Type) := Request Connection α

namespace Connection

/-- The connection after something was sent. -/
def record (c : Connection) (s : Sent) : Connection :=
  { c with sent := c.sent ++ [s] }

/-- Sends a statement and gives the reply. -/
def send (s : Statement) : Query Reply := fun c =>
  match c.replies with
  | [] => (⟨.error DatabaseError.noReply.error, .never⟩, c.record (.statement s.sql none))
  | reply :: rest =>
    let c := { c with replies := rest }
    let answer : Except Error Reply × Sent := match reply.failure with
      | some (e, .preparing) => (.error e.error, .statement s.sql none)
      | failure =>
        match reply.written s.params with
        | .error e => (.error e, .statement s.sql none)
        | .ok bytes =>
          (failure.elim (.ok reply) fun (e, _) => .error e.error, .statement s.sql (some bytes))
    (⟨answer.1, reply.firing⟩, c.record answer.2)

/-- All rows of a statement's result. -/
def query (s : Statement) : Query (List Row) :=
  (send s).andThen fun reply => .ok reply.table

/-- The first row of a statement's result, if there is one. Outside a transaction more than one row
is an error. -/
def queryFirst? (s : Statement) : Query (Option Row) := fun c =>
  (query s).andThen (fun rows =>
    if c.depth = 0 ∧ 1 < rows.length then .error (.query .rowCount) else .ok rows.head?) c

/-- The first row of a statement's result. -/
def queryFirst (s : Statement) : Query Row :=
  (query s).andThen fun rows =>
    match rows with
    | [] => .error (.notFound .row)
    | row :: _ => .ok row

/-- The number of rows that a statement changes. -/
def execute (s : Statement) : Query Nat :=
  (send s).andThen fun reply => .ok reply.affected

end Connection

end BoundSql
