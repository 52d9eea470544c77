import BoundSql.Entity.Record
import BoundSql.Entity.Update
import BoundSql.Config
import BoundSql.Session.Call

/-!
# Calls on entities

Rows of an audited entity are stamped with the acting user and the clock of
the database, which is read just before. Selected rows come as records.
-/

namespace BoundSql

/-- Who acts: the name for nobody, and the user if there is one. -/
structure Actor where
  anonymous : String := ({} : Config).anonymousUser
  user : Option String := none
  deriving DecidableEq, Repr

/-- The name under which an actor's actions are stamped. -/
def Actor.name (a : Actor) : String :=
  userName a.anonymous a.user

namespace Entity

/-- Asks for the clock of the database. -/
def clockStatement : Statement := ⟨"SELECT CURRENT_TIMESTAMP", []⟩

/-- The instant in the first column of a row. -/
def instantOf (r : Row) : Except Error Timestamp :=
  r.readAt "current_timestamp" 0 fun c =>
    match c.read? .instant false with
    | some (.timestampTz t) => some t
    | _ => none

/-- The clock of the database. -/
def serverNow : Call Timestamp :=
  Call.send (.ok clockStatement) fun s => (Connection.queryFirst s).andThen instantOf

/-- A stamp of an actor at the clock of the database. -/
def newStamp (a : Actor) : Call Stamp := do
  let time ← serverNow
  pure ⟨a.name, time⟩

/-- A stamp if the entity is audited. -/
def stampFor (e : Entity) (a : Actor) : Call (Option Stamp) :=
  if e.audited then some <$> newStamp a else pure none

/-- Inserts a row. -/
def runInsert (entity : Except Error Entity) (values : List Value) (a : Actor) : Call Nat := do
  Task.check
  let e ← entity
  let stamp ← e.stampFor a
  Call.send (e.insert values stamp) Connection.execute

/-- Inserts a row and gives its key. -/
def runInsertReturningKey (entity : Except Error Entity) (values : List Value) (a : Actor) :
    Call Value := do
  Task.check
  let e ← entity
  let stamp ← e.stampFor a
  Call.send (e.insertReturningKey values stamp) (Call.returned e.key.column.text)

/-- Updates a row. Nothing is sent when the update cannot be planned. -/
def runUpdate (entity : Except Error Entity) (u : Update) (a : Actor) : Call Nat := do
  Task.check
  let e ← entity
  let plan ← u.plan e
  let stamp ← if u.audits then some <$> newStamp a else pure none
  Call.send (u.render plan stamp) Connection.execute

/-- Marks rows as deleted. -/
def runSoftDelete (entity : Except Error Entity) (rows : Restriction) (a : Actor) : Call Nat := do
  Task.check
  let stamp ← newStamp a
  Call.send (entity.bind fun e => e.softDelete rows stamp) Connection.execute

end Entity

namespace RecordType

/-- The records of the rows of a restriction. -/
def selectAll (t : RecordType) (rows : Restriction) : Call (List (List Value)) :=
  Call.run ((Entity.ofShape t.shape).bind fun e => e.select rows false) fun s =>
    (Connection.query s).andThen fun rows => rows.mapM t.ofRow

/-- The record of the first row of a restriction, if there is one. -/
def selectFirst (t : RecordType) (rows : Restriction) : Call (Option (List Value)) :=
  Call.run ((Entity.ofShape t.shape).bind fun e => e.select rows true) fun s =>
    (Connection.queryFirst? s).andThen fun row => row.mapM t.ofRow

end RecordType

end BoundSql
