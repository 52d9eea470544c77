import BoundSql.Session.Connection

/-!
# Calls

A call looks at the signal, builds its statement and sends it. A signal that
is set, or a statement that cannot be built, ends the call before anything is
sent.
-/

namespace BoundSql

/-- What is done on a connection under a signal. -/
abbrev Call (α : Type) := Task Connection α

namespace Call

variable {α : Type}

/-- Builds a statement and waits for what a query makes of it. -/
def send (statement : Except Error Statement) (query : Statement → Query α) : Call α := do
  let s ← statement
  Task.await (query s)

/-- The same, unless the signal is set. -/
def run (statement : Except Error Statement) (query : Statement → Query α) : Call α := do
  Task.check
  send statement query

/-- The number of rows that a statement changes. -/
def execute (statement : Except Error Statement) : Call Nat :=
  run statement Connection.execute

/-- The rows of a statement's result, whatever columns they have. -/
def rows (s : Statement) : Query (List DynamicRow) :=
  (Connection.query s).andThen fun rows => rows.mapM Row.dynamic

/-- The first row of a statement's result, if there is one. -/
def firstRow? (s : Statement) : Query (Option DynamicRow) :=
  (Connection.queryFirst? s).andThen fun row => row.mapM Row.dynamic

/-- The first row of a statement's result. -/
def firstRow (s : Statement) : Query DynamicRow :=
  (Connection.queryFirst s).andThen Row.dynamic

/-- The value that a statement returns under a name. -/
def returned (name : String) (s : Statement) : Query Value :=
  (Connection.queryFirst s).andThen (·.firstValue name)

/-- Whether a statement gives any row. -/
def hasRow (s : Statement) : Query Bool :=
  (Connection.queryFirst? s).andThen fun row => .ok row.isSome

/-- The call as an activity on a connection, under a signal that is set or not. -/
def start (call : Call α) (cancelled : Bool) : StateM Connection (Except Error α) := fun c =>
  let (r, s) := call.runWith cancelled c
  (r, s.state)

end Call

end BoundSql
