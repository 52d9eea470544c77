import BoundSql.Entity.Record
import BoundSql.Guard.DeleteGuard
import BoundSql.Proofs.Result

/-!
# First rows

Inside a transaction a question for the first row of a result is answered by it,
however many rows follow. Outside of transactions it is refused when another row
follows. So both answer alike exactly when the result has at most one row,
whatever is read from the row.
-/

namespace BoundSql

open BoundSql.Text

/-! ### Faults of reading -/

/-- The error for a result of more than one row. -/
def Error.severalRows : Error :=
  .query .rowCount

section

variable {α β : Type}

namespace Row

variable {r : Row} {take : Cell → Option α} {e : Error}

/-- What cannot be read at a place is an error about the name that is given. -/
theorem exists_decode_of_readAt {name : String} {place : Nat}
    (h : r.readAt name place take = .error e) :
  ∃ fault, e = .decode name fault
  := by
  rw [readAt] at h
  split at h
  · use .noColumn (decimalText place), (Except.error.inj h).symm
  · split at h
    · contradiction
    · use .cell place, (Except.error.inj h).symm

theorem exists_decode_of_readBy {column : String} (h : r.readBy column take = .error e) :
  ∃ fault, e = .decode column fault
  := by
  rw [readBy] at h
  split at h
  · use .noColumn column, (Except.error.inj h).symm
  · apply exists_decode_of_readAt h

theorem readAt_ne_severalRows (r : Row) (name : String) (place : Nat) (take : Cell → Option α) :
  r.readAt name place take ≠ .error .severalRows
  := by
  intro h
  obtain ⟨fault, hfault⟩ := exists_decode_of_readAt h
  contradiction

theorem read_ne_severalRows (r : Row) (column : String) (kind : CellKind) (nullable : Bool) :
  r.read column kind nullable ≠ .error .severalRows
  := by
  intro h
  obtain ⟨fault, hfault⟩ := exists_decode_of_readBy h
  contradiction

theorem dynamic_ne_severalRows (r : Row) :
  r.dynamic ≠ .error .severalRows
  := by
  apply map_ne_error
  apply mapM_ne_error
  rintro ⟨c, place⟩
  apply map_ne_error (readAt_ne_severalRows r c.column place Cell.value?)

end Row

theorem RecordType.ofRow_ne_severalRows (t : RecordType) (r : Row) :
  t.ofRow r ≠ .error .severalRows
  := by
  apply mapM_ne_error
  intro p
  apply Row.read_ne_severalRows

end

namespace Connection

/-! ### The same question in and out of transactions -/

/-- The connection with another number of open transactions. -/
def within (c : Connection) (depth : Nat) : Connection :=
  { c with depth }

/-- The result of a statement has more than one row. -/
def GivesSeveral (s : Statement) (c : Connection) : Prop :=
  ∃ rows, (query s c).1.answer = .ok rows ∧ 1 < rows.length

variable {α : Type}

/-- A request has the same answer on a connection and inside transactions on it. -/
def AnswersAlike (q : Query α) (c : Connection) (depth : Nat) : Prop :=
  (q c).1.answer = (q (c.within depth)).1.answer

/-- The database answers a statement alike in and out of transactions. -/
theorem query_within (s : Statement) (c : Connection) (depth : Nat) :
  (query s (c.within depth)).1 = (query s c).1
  := by
  have hsend : (send s (c.within depth)).1 = (send s c).1 := by
    simp only [send, within]
    cases c.replies with
    | nil => rfl
    | cons reply rest => rfl
  simp only [query, Request.andThen, hsend]

section

variable {s : Statement} {c : Connection}

/-- Inside a transaction the first row counts. -/
theorem queryFirst?_inside (hdepth : c.depth ≠ 0) :
  (queryFirst? s c).1.answer = (query s c).1.answer.map List.head?
  := by
  simp only [queryFirst?, Request.andThen, hdepth, false_and, if_false]
  rfl

/-- Outside of transactions a result of more than one row is refused. -/
theorem queryFirst?_of_several (hdepth : c.depth = 0) (h : GivesSeveral s c) :
  (queryFirst? s c).1.answer = .error .severalRows
  := by
  obtain ⟨rows, hrows, hlength⟩ := h
  simp only [queryFirst?, Request.andThen, hrows, Except.bind, hdepth, true_and, if_pos hlength]
  rfl

/-- Outside of transactions the first row counts when no other follows it. -/
theorem queryFirst?_of_not_several (h : ¬ GivesSeveral s c) :
  (queryFirst? s c).1.answer = (query s c).1.answer.map List.head?
  := by
  cases hrows : (query s c).1.answer with
  | error e =>
      simp only [queryFirst?, Request.andThen, hrows]
      rfl
  | ok rows =>
      have hlength : ¬ (c.depth = 0 ∧ 1 < rows.length) := by
        rintro ⟨_, hlength⟩
        apply h ⟨rows, hrows, hlength⟩
      simp only [queryFirst?, Request.andThen, hrows, Except.bind, if_neg hlength]
      rfl

variable (f : Option Row → Except Error α)

theorem answer_andThen (q : Query (Option Row)) :
  (q.andThen f c).1.answer = (q c).1.answer.bind f
  := rfl

/-- What is read from the first row inside a transaction. -/
theorem first_inside (depth : Nat) :
  ((queryFirst? s).andThen f (c.within (depth + 1))).1.answer
    = ((query s c).1.answer.map List.head?).bind f
  := by
  have hdepth : (c.within (depth + 1)).depth ≠ 0 := Nat.succ_ne_zero depth
  rw [answer_andThen, queryFirst?_inside hdepth, query_within]

/-- What is read from the first row is the same in and out of transactions exactly when no other row
follows, as long as reading does not itself complain of several rows. -/
theorem first_alike_iff (hdepth : c.depth = 0) (hf : ∀ row, f row ≠ .error .severalRows)
    (depth : Nat) :
  AnswersAlike ((queryFirst? s).andThen f) c (depth + 1) ↔ ¬ GivesSeveral s c
  := by
  rw [AnswersAlike, first_inside, answer_andThen]
  constructor
  · rintro halike hseveral
    rw [queryFirst?_of_several hdepth hseveral] at halike
    obtain ⟨rows, hrows, _⟩ := hseveral
    rw [hrows] at halike
    apply hf rows.head? halike.symm
  · intro hseveral
    rw [queryFirst?_of_not_several hseveral]

end

/-! ### Rows, records and guards -/

/-- What a guard looks for in the first row. -/
def probed (column : String) (row : Option Row) : Except Error ProbeOutcome :=
  match row with
  | none => .ok .noRow
  | some cells =>
    match cells.namedPlace? column with
    | none => .ok .missingColumn
    | some place => (cells.readAt column place Cell.value?).map .value

theorem probe_eq_andThen (s : Statement) (column : String) :
  probe s column = (queryFirst? s).andThen (probed column)
  := rfl

theorem probed_ne_severalRows (column : String) (row : Option Row) :
  probed column row ≠ .error .severalRows
  := by
  cases row with
  | none => simp [probed]
  | some cells =>
      simp only [probed]
      split
      · simp
      · apply map_ne_error (Row.readAt_ne_severalRows _ _ _ _)

/-- Inside a transaction the answer to a question for the first row is the first row if there is
one. On the connection itself it is so exactly when there is no other row; more rows are an error
there. The first row of columns that are not known beforehand, the record of the first row and the
question of a guard have the same answer in both places under the same condition. -/
theorem first_row_alike_iff (s : Statement) {c : Connection} (hdepth : c.depth = 0) (depth : Nat) :
  (queryFirst? s (c.within (depth + 1))).1.answer = (query s c).1.answer.map List.head?
    ∧ ((queryFirst? s c).1.answer = (query s c).1.answer.map List.head? ↔ ¬ GivesSeveral s c)
    ∧ (GivesSeveral s c → (queryFirst? s c).1.answer = .error .severalRows)
    ∧ (AnswersAlike (queryFirst? s) c (depth + 1) ↔ ¬ GivesSeveral s c)
    ∧ (AnswersAlike (Call.firstRow? s) c (depth + 1) ↔ ¬ GivesSeveral s c)
    ∧ (∀ t : RecordType, AnswersAlike ((queryFirst? s).andThen fun row => row.mapM t.ofRow) c
        (depth + 1) ↔ ¬ GivesSeveral s c)
    ∧ ∀ column, AnswersAlike (probe s column) c (depth + 1) ↔ ¬ GivesSeveral s c
  := by
  have hinside : (queryFirst? s (c.within (depth + 1))).1.answer
      = (query s c).1.answer.map List.head? := by
    rw [queryFirst?_inside (Nat.succ_ne_zero depth), query_within]
  have hfirst : (queryFirst? s c).1.answer = (query s c).1.answer.map List.head?
      ↔ ¬ GivesSeveral s c := by
    constructor
    · intro h hseveral
      rw [queryFirst?_of_several hdepth hseveral] at h
      obtain ⟨rows, hrows, _⟩ := hseveral
      rw [hrows] at h
      contradiction
    · apply queryFirst?_of_not_several
  refine ⟨hinside, hfirst, queryFirst?_of_several hdepth, ?_, ?_, ?_, ?_⟩
  · rw [AnswersAlike, hinside, hfirst]
  · apply first_alike_iff _ hdepth
    apply option_mapM_ne_error Row.dynamic_ne_severalRows
  · intro t
    apply first_alike_iff _ hdepth
    apply option_mapM_ne_error t.ofRow_ne_severalRows
  · intro column
    rw [probe_eq_andThen]
    apply first_alike_iff _ hdepth (probed_ne_severalRows column)

/-- A connection to a database that answers with one column of truth values. -/
def answering (cells : List (List UInt8)) : Connection where
  replies := [{ columns := [("can_delete", .bool)], rows := cells.map fun bytes => [some bytes] }]

/-- A statement without parameters. -/
def question : Statement := ⟨"SELECT can_delete FROM lock", []⟩

/-- One row lets a guard see the same truth value in and out of transactions. -/
theorem first_row_alike_iff_oneRow :
  (answering [[1]]).depth = 0
    ∧ ¬ GivesSeveral question (answering [[1]])
    ∧ AnswersAlike (probe question "can_delete") (answering [[1]]) 1
    ∧ (probe question "can_delete" ((answering [[1]]).within 1)).1.answer
      = .ok (.value (.bool true))
  := by
  have hone : ¬ GivesSeveral question (answering [[1]]) := by
    rintro ⟨rows, hrows, hlength⟩
    obtain rfl := Except.ok.inj hrows
    contradiction
  obtain ⟨_, _, _, _, _, _, hprobe⟩ :=
    first_row_alike_iff question (c := answering [[1]]) rfl 0
  use rfl, hone, (hprobe "can_delete").mpr hone
  rfl

/-- Of two rows a guard sees the first inside a transaction; on the connection itself it sees
none. -/
theorem not_first_row_alike :
  ¬ AnswersAlike (queryFirst? question) (answering [[1], [0]]) 1
    ∧ ¬ AnswersAlike (probe question "can_delete") (answering [[1], [0]]) 1
    ∧ (probe question "can_delete" (answering [[1], [0]])).1.answer = .error .severalRows
    ∧ (probe question "can_delete" ((answering [[1], [0]]).within 1)).1.answer
      = .ok (.value (.bool true))
  := by
  have houtside : (queryFirst? question (answering [[1], [0]])).1.answer
      = .error .severalRows := rfl
  have hprobe : (probe question "can_delete" (answering [[1], [0]])).1.answer
      = .error .severalRows := rfl
  have hinside : (probe question "can_delete" ((answering [[1], [0]]).within 1)).1.answer
      = .ok (.value (.bool true)) := rfl
  refine ⟨?_, ?_, hprobe, hinside⟩
  · intro halike
    rw [AnswersAlike, houtside] at halike
    contradiction
  · intro halike
    rw [AnswersAlike, hprobe, hinside] at halike
    contradiction

end Connection

end BoundSql
