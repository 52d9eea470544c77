import BoundSql.Session.Transaction
import Mathlib.Tactic.Use

/-!
# Records of connections

A statement that is sent is recorded with its text, whatever the database makes
of it, and with its parameters if they could be written for the types that the
database declares. Nothing else is recorded. A transaction records the command
that begins it, what its body records, and one command that ends it.
-/

namespace BoundSql

/-- The text of a statement that was sent. -/
def Sent.text? : Sent → Option String
  | .statement sql _ => some sql
  | .control _ => none

/-- What is recorded of a statement: its text, and its parameters as they were written for the
reply, if there was a reply that declared their types. -/
inductive Sent.Records (s : Statement) : Option Reply → Sent → Prop where
  | unanswered : Records s none (.statement s.sql none)
  | unprepared {reply : Reply} {e : DatabaseError} (h : reply.failure = some (e, .preparing)) :
      Records s (some reply) (.statement s.sql none)
  | unwritten {reply : Reply} {e : Error} (h : reply.written s.params = .error e) :
      Records s (some reply) (.statement s.sql none)
  | written {reply : Reply} {bytes : List (Option (List UInt8))}
      (hprepared : ∀ e, reply.failure ≠ some (e, .preparing))
      (h : reply.written s.params = .ok bytes) :
      Records s (some reply) (.statement s.sql (some bytes))

/-- What is recorded of statements that take their replies one after the other. -/
inductive Sent.RecordsAll : List Reply → List Statement → List Sent → Prop where
  | nil {replies : List Reply} : RecordsAll replies [] []
  | cons {replies : List Reply} {s : Statement} {statements : List Statement} {entry : Sent}
      {entries : List Sent} (h : entry.Records s replies.head?)
      (hrest : RecordsAll replies.tail statements entries) :
      RecordsAll replies (s :: statements) (entry :: entries)

theorem Sent.Records.text {s : Statement} {reply : Option Reply} {entry : Sent}
    (h : entry.Records s reply) :
  entry.text? = some s.sql
  := by
  cases h with
  | _ => rfl

/-- Statements are recorded with their texts. -/
theorem Sent.RecordsAll.texts {replies : List Reply} {statements : List Statement}
    {entries : List Sent} (h : RecordsAll replies statements entries) :
  entries.map Sent.text? = statements.map fun s => some s.sql
  := by
  induction h with
  | nil => rfl
  | cons h _ ih =>
      rw [List.map_cons, List.map_cons, ih, h.text]

namespace Connection

/-! ### Statements -/

/-- The connection after statements were sent one after the other. -/
def after (c : Connection) (statements : List Statement) : Connection :=
  statements.foldl (fun c s => (send s c).2) c

@[simp]
theorem after_nil (c : Connection) :
  c.after [] = c
  := rfl

@[simp]
theorem after_cons (c : Connection) (s : Statement) (statements : List Statement) :
  c.after (s :: statements) = (send s c).2.after statements
  := rfl

theorem after_append (c : Connection) (first next : List Statement) :
  c.after (first ++ next) = (c.after first).after next
  := List.foldl_append

/-- A statement that is sent takes a reply and is recorded, and the connection is otherwise the
same. -/
theorem send_recorded (s : Statement) (c : Connection) :
  ∃ entry : Sent, entry.Records s c.replies.head?
    ∧ (send s c).2 = { c with replies := c.replies.tail, sent := c.sent ++ [entry] }
  := by
  cases hreplies : c.replies with
  | nil =>
      use .statement s.sql none, .unanswered
      simp [send, record, hreplies]
  | cons reply rest =>
      simp only [send, hreplies, List.head?_cons, List.tail_cons]
      split
      · next e hfailure =>
          use .statement s.sql none, .unprepared hfailure
          rfl
      · next hprepared =>
          cases hwritten : reply.written s.params with
          | error e =>
              use .statement s.sql none, .unwritten hwritten
              rfl
          | ok bytes =>
              use .statement s.sql (some bytes), .written hprepared hwritten
              rfl

/-- Statements that are sent are recorded in order. -/
theorem after_recorded (c : Connection) (statements : List Statement) :
  ∃ entries, Sent.RecordsAll c.replies statements entries
    ∧ c.after statements
      = { c with replies := c.replies.drop statements.length, sent := c.sent ++ entries }
  := by
  induction statements generalizing c with
  | nil =>
      use [], .nil
      simp
  | cons s statements ih =>
      obtain ⟨entry, hentry, hsend⟩ := send_recorded s c
      obtain ⟨entries, hentries, hafter⟩ := ih (send s c).2
      rw [hsend] at hentries
      use entry :: entries, .cons hentry hentries
      rw [after_cons, hafter, hsend]
      simp

/-! ### Transactions -/

/-- The connection after a transaction was begun. -/
def opened (c : Connection) : Connection :=
  { c.record (.control (opening c.depth)) with depth := c.depth + 1 }

/-- The command that ends a transaction: it is rolled back exactly when its body fails. -/
def ending (depth : Nat) (failure : Option Error) : Control :=
  failure.elim (closing depth) fun _ => undoing depth

theorem ending_eq_closing_iff (depth : Nat) (failure : Option Error) :
  ending depth failure = closing depth ↔ failure = none
  := by
  cases failure with
  | none => simp [ending]
  | some e =>
      simp only [ending, closing, undoing, Option.elim_some]
      split
      · simp
      · simp

theorem ending_eq_undoing_iff (depth : Nat) (failure : Option Error) :
  ending depth failure = undoing depth ↔ ∃ e, failure = some e
  := by
  cases failure with
  | none =>
      simp only [ending, closing, undoing, Option.elim_none]
      split
      · simp
      · simp
  | some e => simp [ending]

section

variable {α β : Type}

/-- Activities made one after the other pass the connection on. -/
theorem bind_run (x : Activity α) (f : α → Activity β) (c : Connection) :
  (x >>= f) c = f (x c).1 (x c).2
  := rfl

theorem pure_run (a : α) (c : Connection) :
  (pure a : Activity α) c = (a, c)
  := rfl

theorem get_run (c : Connection) :
  (get : Activity Connection) c = (c, c)
  := rfl

theorem inside_run (body : Activity (Batch α)) (c : Connection) :
  inside body c = ((body { c with depth := c.depth + 1 }).1,
    { (body { c with depth := c.depth + 1 }).2 with depth := c.depth })
  := rfl

/-- A transaction that could be begun records what its body records and the command that ends
it. -/
theorem transaction_sent (body : Activity (Batch α)) (c : Connection)
    (hopening : c.refused.lookup (opening c.depth).text = none) :
  (transaction body c).2.sent
    = (body c.opened).2.sent ++ [.control (ending c.depth (body c.opened).1.failure)]
  := by
  rcases hbody : body c.opened with ⟨⟨results, failure⟩, d⟩
  simp only [opened, record] at hbody
  simp only [transaction, bind_run, get_run, command, hopening, inside_run, record, hbody]
  cases failure with
  | none => rfl
  | some e =>
      simp only [bind_run, command]
      cases d.refused.lookup (undoing c.depth).text with
      | none => rfl
      | some _ => rfl

/-- A batch of one call fails exactly when the call does. -/
theorem batch_singleton (call : Activity (Except Error α)) (c : Connection) :
  (batch [call] c).2 = (call c).2
    ∧ ((batch [call] c).1.failure = none ↔ ∃ a, (call c).1 = .ok a)
    ∧ ((∃ e, (batch [call] c).1.failure = some e) ↔ ∃ e, (call c).1 = .error e)
  := by
  rw [batch, bind_run]
  cases (call c).1 with
  | error e => simp [pure_run]
  | ok a => simp [batch, bind_run, pure_run]

end

end Connection

end BoundSql
