import BoundSql.Proofs.Entity.Refusal
import BoundSql.Proofs.Session.Connection
import BoundSql.Proofs.Task
import BoundSql.Session.EntityCall

/-!
# Updates on connections

An update that is cancelled before it starts, or refused, issues nothing. Any other
update issues one statement, the one that it compiles to. If it is audited, the
clock of the database is read before, and the statement is compiled under the
stamp of the actor at that time; when the clock cannot be read, no other statement
is issued.
-/

namespace BoundSql

open FieldBag

/-! ### Stamps -/

/-- The name that an actor signs with: the user's unless it is blank, else the anonymous one. -/
inductive Actor.Signs (a : Actor) : String → Prop where
  | user {name : String} (h : a.user = some name) (hname : Text.isBlank name = false) : Signs a name
  | anonymous (h : ∀ name, a.user = some name → Text.isBlank name = true) : Signs a a.anonymous

theorem Actor.signs_name (a : Actor) :
  a.Signs a.name
  := by
  simp only [name, userName]
  cases huser : a.user with
  | none => apply Signs.anonymous (by simp [huser])
  | some name =>
      dsimp only
      split
      · next hblank => apply Signs.anonymous (by simp [huser, hblank])
      · next hblank => apply Signs.user huser (by simpa using hblank)

namespace Entity

/-- The clock of the database, read on a connection. -/
def clock : Query Timestamp :=
  (Connection.queryFirst clockStatement).andThen instantOf

theorem runWith_serverNow (fired : Bool) (c : Connection) :
  serverNow.runWith fired c = ((clock c).1.answer,
    ⟨fired || (clock c).1.firing != .never, c.after [clockStatement]⟩)
  := rfl

theorem newStamp_eq_map (a : Actor) :
  newStamp a = (fun time => ⟨a.name, time⟩) <$> serverNow
  := rfl

end Entity

/-- A statement that is built is sent, whatever the signal does. -/
theorem Call.runWith_send_execute (s : Statement) (fired : Bool) (c : Connection) :
  (Call.send (.ok s) Connection.execute).runWith fired c
    = ((Connection.execute s c).1.answer,
      ⟨fired || (Connection.execute s c).1.firing != .never, c.after [s]⟩)
  := rfl

namespace Update

variable {u : Update} {e : Entity} {a : Actor} {c : Connection} {plan : UpdatePlan} {err : Error}

/-! ### Runs -/

/-- What an update issues on a connection under a signal, and its result. -/
inductive Issues (u : Update) (e : Entity) (a : Actor) :
    Signalled Connection → List Statement → Except Error Nat → Prop where
  | cancelled {c : Connection} : Issues u e a ⟨true, c⟩ [] (.error .cancelled)
  | refused {c : Connection} {err : Error} (h : u.Refusal e err) :
      Issues u e a ⟨false, c⟩ [] (.error err)
  | unread {c : Connection} {err : Error} (hplanned : ∀ err, ¬ u.Refusal e err)
      (haudits : u.audits = true) (hclock : (Entity.clock c).1.answer = .error err) :
      Issues u e a ⟨false, c⟩ [Entity.clockStatement] (.error err)
  | stamped {c : Connection} {name : String} {time : Timestamp} {update : Statement}
      (haudits : u.audits = true) (hname : a.Signs name)
      (hclock : (Entity.clock c).1.answer = .ok time)
      (h : u.compile e (some ⟨name, time⟩) = .ok update) :
      Issues u e a ⟨false, c⟩ [Entity.clockStatement, update]
        (Connection.execute update (c.after [Entity.clockStatement])).1.answer
  | plain {c : Connection} {update : Statement} (haudits : u.audits = false)
      (h : u.compile e none = .ok update) :
      Issues u e a ⟨false, c⟩ [update] (Connection.execute update c).1.answer

theorem runWith_runUpdate_of_refused (h : u.plan e = .error err) :
  (Entity.runUpdate (.ok e) u a).runWith false c = (.error err, ⟨false, c⟩)
  := by
  rw [Entity.runUpdate, Task.runWith_bind_ok (Task.runWith_check c),
    Task.runWith_bind_ok (Task.runWith_lift _ _ _)]
  apply Task.runWith_bind_error
  rw [Task.runWith_lift, h]

/-- A planned update goes on with its stamp. -/
theorem runWith_runUpdate_of_plan (h : u.plan e = .ok plan) :
  (Entity.runUpdate (.ok e) u a).runWith false c
    = ((if u.audits then some <$> Entity.newStamp a else pure none) >>= fun stamp =>
        Call.send (u.render plan stamp) Connection.execute).runWith false c
  := by
  have hplan : (liftM (u.plan e) : Task Connection UpdatePlan).runWith false c
      = (.ok plan, ⟨false, c⟩) := by
    rw [Task.runWith_lift, h]
  rw [Entity.runUpdate, Task.runWith_bind_ok (Task.runWith_check c),
    Task.runWith_bind_ok (Task.runWith_lift _ _ _), Task.runWith_bind_ok hplan]
  cases u.audits with
  | true => rfl
  | false => rfl

/-- A planned update that is audited reads the clock, and is sent under the stamp if there is a
time. -/
theorem runWith_runUpdate_of_audits (h : u.plan e = .ok plan) (haudits : u.audits = true) :
  (Entity.runUpdate (.ok e) u a).runWith false c
    = match (Entity.clock c).1.answer with
      | .error err => (.error err, ⟨(Entity.clock c).1.firing != .never,
          c.after [Entity.clockStatement]⟩)
      | .ok time => (Call.send (u.render plan (some ⟨a.name, time⟩)) Connection.execute).runWith
          ((Entity.clock c).1.firing != .never) (c.after [Entity.clockStatement])
  := by
  rw [runWith_runUpdate_of_plan h, haudits, if_pos rfl, Entity.newStamp_eq_map, Task.runWith_bind,
    Task.runWith_map, Task.runWith_map, Entity.runWith_serverNow, Bool.false_or]
  cases (Entity.clock c).1.answer with
  | error err => rfl
  | ok time => rfl

/-- A planned update that is not audited issues the statement that it compiles to. -/
theorem exists_issues_of_plain (hplan : u.plan e = .ok plan) (haudits : u.audits = false)
    (a : Actor) (c : Connection) :
  ∃ issued r fired, u.Issues e a ⟨false, c⟩ issued r
    ∧ (Entity.runUpdate (.ok e) u a).runWith false c = (r, ⟨fired, c.after issued⟩)
  := by
  have hstamped : u.audits = true → (none : Option Stamp).isSome = true := by simp [haudits]
  obtain ⟨update, hrender⟩ := exists_render plan hstamped
  use [update], (Connection.execute update c).1.answer,
    (Connection.execute update c).1.firing != .never
  constructor
  · apply Issues.plain haudits
    rw [compile_of_plan hplan, hrender]
  · rw [runWith_runUpdate_of_plan hplan, haudits, if_neg Bool.false_ne_true,
      Task.runWith_bind_ok (Task.runWith_pure _ _ _), hrender, Call.runWith_send_execute,
      Bool.false_or]

/-- A planned update that is audited reads the clock, and issues the statement that it compiles to
under the stamp if there is a time. -/
theorem exists_issues_of_audits (hplan : u.plan e = .ok plan) (haudits : u.audits = true)
    (a : Actor) (c : Connection) :
  ∃ issued r fired, u.Issues e a ⟨false, c⟩ issued r
    ∧ (Entity.runUpdate (.ok e) u a).runWith false c = (r, ⟨fired, c.after issued⟩)
  := by
  have hrun := runWith_runUpdate_of_audits (a := a) (c := c) hplan haudits
  cases hclock : (Entity.clock c).1.answer with
  | error err =>
      rw [hclock] at hrun
      have hplanned : ∀ err, ¬ u.Refusal e err := by
        intro err' hrefusal
        rw [← plan_eq_error_iff, hplan] at hrefusal
        contradiction
      refine ⟨_, _, _, .unread hplanned haudits hclock, hrun⟩
  | ok time =>
      have hstamped : u.audits = true → (some (⟨a.name, time⟩ : Stamp)).isSome = true := by simp
      obtain ⟨update, hrender⟩ := exists_render plan hstamped
      rw [hclock] at hrun
      dsimp only at hrun
      rw [hrender, Call.runWith_send_execute] at hrun
      rw [← compile_of_plan hplan] at hrender
      refine ⟨_, _, _, .stamped haudits a.signs_name hclock hrender, hrun⟩

/-- An update issues what it is said to issue. -/
theorem exists_issues (u : Update) (e : Entity) (a : Actor) (fired : Bool) (c : Connection) :
  ∃ issued r fired', u.Issues e a ⟨fired, c⟩ issued r
    ∧ (Entity.runUpdate (.ok e) u a).runWith fired c = (r, ⟨fired', c.after issued⟩)
  := by
  cases fired with
  | true =>
      use [], .error .cancelled, true, .cancelled
      rfl
  | false =>
      cases hplan : u.plan e with
      | error err =>
          use [], .error err, false, .refused (plan_eq_error_iff.mp hplan)
          apply runWith_runUpdate_of_refused hplan
      | ok plan =>
          cases haudits : u.audits with
          | false => apply exists_issues_of_plain hplan haudits
          | true => apply exists_issues_of_audits hplan haudits

end Update

end BoundSql
