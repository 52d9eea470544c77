import BoundSql.Proofs.Entity.Stored

/-!
# Contention

Clients read the token of a row and run updates with the token that they have
read, in any order; rows may be marked as deleted in between. The updates that
affect the row carry the tokens from the first one on, one after the other, so
no two of them carry the same, and an update does not affect the row when another
has affected it since the token was read.
-/

namespace BoundSql

/-- What happens to a row: a client reads it, a client updates it with the token that it has read
last, or rows are marked as deleted. -/
inductive Move where
  | read (client : Nat)
  | update (client : Nat) (u : Update) (stamp : Option Stamp)
  | softDelete (rows : Restriction) (stamp : Stamp)

namespace Move

/-- Whether rows are marked as deleted. -/
def isDeletion : Move → Bool
  | .softDelete _ _ => true
  | _ => false

/-- A deletion has marks in other columns than the given one. -/
def Spares (m : Move) (column : Ident) : Prop :=
  m.isDeletion = true → ∀ c ∈ Audit.marks, c.isNamed column.text = false

end Move

/-- A row, and the token that each client has read last. -/
structure World where
  row : StoredRow
  seen : Nat → Option Value

variable (db : Database) (e : Entity)

namespace World

/-- The token that the row has. -/
def token (w : World) : Option Value :=
  e.token.map (w.row.get ·.column)

/-- A row that no client has read. -/
def start (row : StoredRow) : World :=
  ⟨row, fun _ => none⟩

/-- The row that a move makes of the row, if it affects it. -/
def affect? (w : World) : Move → Option StoredRow
  | .read _ => none
  | .update client u stamp => Update.affect? db { u with token := w.seen client } e stamp w.row
  | .softDelete rows stamp => e.mark? db rows stamp w.row

/-- Whether a move affects the row. -/
def affects (w : World) (m : Move) : Bool :=
  (w.affect? db e m).isSome

/-- Whether an update affects the row with the token that the row has. -/
def suits (w : World) (u : Update) (stamp : Option Stamp) : Bool :=
  (Update.affect? db { u with token := w.token e } e stamp w.row).isSome

/-- The tokens that clients have read last after a move. -/
def seenAfter (w : World) : Move → Nat → Option Value
  | .read client => Function.update w.seen client (w.token e)
  | _ => w.seen

/-- A move. -/
def move (w : World) (m : Move) : World :=
  ⟨(w.affect? db e m).getD w.row, w.seenAfter e m⟩

/-- Moves one after the other. -/
def after (w : World) (moves : List Move) : World :=
  moves.foldl (move db e) w

/-- The token that a move carries if it is an update that affects the row. -/
def spends (w : World) : Move → List (Option Value)
  | .update client u stamp =>
    if w.affects db e (.update client u stamp) then [w.seen client] else []
  | _ => []

/-- The tokens that the updates among moves carry as far as they affect the row. -/
def spent (w : World) : List Move → List (Option Value)
  | [] => []
  | m :: moves => w.spends db e m ++ (w.move db e m).spent moves

end World

/-! ### Tokens in order -/

/-- Integers from one up to another, each of them one above the last, as tokens. -/
inductive Counts : Int64 → List (Option Value) → Int64 → Prop where
  | nil (n : Int64) : Counts n [] n
  | cons {n m k : Int64} {tokens : List (Option Value)} (hnext : m.toInt = n.toInt + 1)
      (h : Counts m tokens k) : Counts n (some (.int n) :: tokens) k

namespace Counts

variable {n m k : Int64} {tokens others : List (Option Value)}

theorem append (h : Counts n tokens m) (hothers : Counts m others k) :
  Counts n (tokens ++ others) k
  := by
  induction h with
  | nil => apply hothers
  | cons hnext _ ih => apply cons hnext (ih hothers)

theorem toInt_eq (h : Counts n tokens k) :
  k.toInt = n.toInt + tokens.length
  := by
  induction h with
  | nil => simp
  | cons hnext _ ih =>
      rw [List.length_cons]
      omega

theorem le_of_mem (h : Counts n tokens k) {m : Int64} (hm : some (.int m) ∈ tokens) :
  n.toInt ≤ m.toInt
  := by
  induction h with
  | nil => contradiction
  | cons hnext _ ih =>
      rcases List.mem_cons.mp hm with hm | hm
      · obtain rfl := Value.int.inj (Option.some.inj hm)
        apply Int.le_refl
      · have hle := ih hm
        omega

theorem nodup (h : Counts n tokens k) :
  tokens.Nodup
  := by
  induction h with
  | nil => apply List.nodup_nil
  | cons hnext h ih =>
      rw [List.nodup_cons]
      refine ⟨?_, ih⟩
      intro hmem
      have hle := h.le_of_mem hmem
      omega

/-- Nothing is counted when the integer is the same in the end. -/
theorem eq_nil (h : Counts n tokens n) :
  tokens = []
  := by
  have hlength := h.toInt_eq
  rw [← List.length_eq_zero_iff]
  omega

end Counts

/-! ### Moves and runs -/

namespace World

/-- The row has an integer as its token, and so had it whenever a client has read it. -/
structure Versioned (w : World) (f : Field) (n : Int64) : Prop where
  row : w.row.get f.column = .int n
  seen : ∀ client v, w.seen client = some v → ∃ m : Int64, v = .int m

variable {db} {e} {w : World} {f : Field} {n : Int64}

theorem Versioned.token (h : w.Versioned f n) (hf : e.token = some f) :
  w.token e = some (.int n)
  := by
  rw [World.token, hf, Option.map_some, h.row]

theorem versioned_start {row : StoredRow} (hn : row.get f.column = .int n) :
  (start row).Versioned f n
  := ⟨hn, by simp [start]⟩

/-- What clients have read stays an integer. -/
theorem Versioned.seenAfter (h : w.Versioned f n) (hf : e.token = some f) (m : Move) :
  ∀ client v, w.seenAfter e m client = some v → ∃ m : Int64, v = .int m
  := by
  cases m with
  | read client =>
      intro other v hv
      rw [World.seenAfter, h.token hf, Function.update_apply] at hv
      split at hv
      · use n, (Option.some.inj hv).symm
      · apply h.seen other v hv
  | update client u stamp => apply h.seen
  | softDelete rows stamp => apply h.seen

/-- A move that does not affect the row leaves it. -/
theorem Versioned.move_of_affect?_eq_none (h : w.Versioned f n) (hf : e.token = some f) {m : Move}
    (haffect : w.affect? db e m = none) :
  w.spends db e m = [] ∧ (w.move db e m).Versioned f n
  := by
  constructor
  · cases m with
    | read client => rfl
    | update client u stamp =>
        rw [spends, affects, haffect, Option.isSome_none, if_neg Bool.false_ne_true]
    | softDelete rows stamp => rfl
  · constructor
    · rw [World.move, haffect, Option.getD_none, h.row]
    · apply h.seenAfter hf

/-- A move that spares the token counts it on when it is an update that affects the row. -/
theorem Versioned.move (h : w.Versioned f n) (hf : e.token = some f) {m : Move}
    (hm : m.Spares f.column) :
  ∃ k, Counts n (w.spends db e m) k ∧ (w.move db e m).Versioned f k
  := by
  cases haffect : w.affect? db e m with
  | none =>
      obtain ⟨hspends, hmove⟩ := h.move_of_affect?_eq_none hf haffect
      use n
      rw [hspends]
      use Counts.nil n
  | some row' =>
      have hrow : (w.move db e m).row = row' := by
        rw [World.move, haffect, Option.getD_some]
      have hseen : ∀ client v, (w.move db e m).seen client = some v → ∃ m : Int64, v = .int m :=
        h.seenAfter hf m
      cases m with
      | read client => contradiction
      | update client u stamp =>
          obtain ⟨hcarried, k, hk, hnext⟩ :=
            Update.token_of_affect? haffect hf h.row (h.seen client)
          have hspends : w.spends db e (.update client u stamp) = [some (.int n)] := by
            rw [spends, affects, haffect, Option.isSome_some, if_pos rfl]
            apply congrArg (fun t => [t]) hcarried
          use k
          rw [hspends]
          use Counts.cons hnext (Counts.nil k)
          constructor
          · rw [hrow, hk]
          · apply hseen
      | softDelete rows stamp =>
          use n, Counts.nil n
          constructor
          · rw [hrow, Entity.get_of_mark? haffect (hm rfl), h.row]
          · apply hseen

variable (db) in
/-- Moves that spare the token count it on once for each update that affects the row. -/
theorem Versioned.after (h : w.Versioned f n) (hf : e.token = some f) {moves : List Move}
    (hmoves : ∀ m ∈ moves, m.Spares f.column) :
  ∃ k, Counts n (w.spent db e moves) k ∧ (w.after db e moves).Versioned f k
  := by
  induction moves generalizing w n with
  | nil =>
      use n, Counts.nil n
      apply h
  | cons m moves ih =>
      rw [List.forall_mem_cons] at hmoves
      obtain ⟨k, hk, hmove⟩ := h.move hf hmoves.1
      obtain ⟨j, hj, hafter⟩ := ih hmove hmoves.2
      use j, hk.append hj
      apply hafter

/-- A client has what it has read until it reads again. -/
theorem seen_after {client : Nat} {moves : List Move} (h : ∀ m ∈ moves, m ≠ .read client) :
  (w.after db e moves).seen client = w.seen client
  := by
  induction moves generalizing w with
  | nil => rfl
  | cons m moves ih =>
      rw [List.forall_mem_cons] at h
      have hmove : (w.move db e m).seen client = w.seen client := by
        cases m with
        | read other =>
            have hne : client ≠ other := by
              rintro rfl
              apply h.1 rfl
            apply Function.update_of_ne hne
        | update other u stamp => rfl
        | softDelete rows stamp => rfl
      rw [← hmove]
      apply ih h.2

theorem spent_read (w : World) (client : Nat) (moves : List Move) :
  w.spent db e (.read client :: moves) = (w.move db e (.read client)).spent db e moves
  := rfl

theorem after_append (w : World) (moves others : List Move) :
  w.after db e (moves ++ others) = (w.after db e moves).after db e others
  := List.foldl_append

variable (db) in
/-- What a client has read is the token of the row. -/
theorem Versioned.read (h : w.Versioned f n) (hf : e.token = some f) (client : Nat) :
  (w.move db e (.read client)).seen client = some (.int n)
    ∧ (w.move db e (.read client)).Versioned f n
  := by
  constructor
  · rw [World.move, World.seenAfter, h.token hf]
    apply Function.update_self
  · apply (h.move_of_affect?_eq_none hf rfl).2

/-- An update affects the row after moves that spare the token exactly when none of the moves is an
update that affects it, and the update would affect it with the token that the row has. -/
theorem Versioned.affects_update_iff (h : w.Versioned f n) (hf : e.token = some f) {client : Nat}
    (hseen : w.seen client = some (.int n)) {moves : List Move}
    (hmoves : ∀ m ∈ moves, m.Spares f.column) (hreads : ∀ m ∈ moves, m ≠ .read client)
    (u : Update) (stamp : Option Stamp) :
  (w.after db e moves).affects db e (.update client u stamp) = true
    ↔ w.spent db e moves = [] ∧ (w.after db e moves).suits db e u stamp = true
  := by
  obtain ⟨k, hk, hafter⟩ := h.after db hf hmoves
  rw [affects, affect?, seen_after hreads, hseen, suits, hafter.token hf]
  constructor
  · intro haffect
    obtain ⟨row', hrow'⟩ := Option.isSome_iff_exists.mp haffect
    obtain ⟨hcarried, -⟩ := Update.token_of_affect? hrow' hf hafter.row
      (fun v hv => ⟨n, (Option.some.inj hv).symm⟩)
    -- the row still has the token that was read, so nothing was counted since
    obtain rfl := Value.int.inj (Option.some.inj hcarried)
    use hk.eq_nil, haffect
  · rintro ⟨hspent, haffect⟩
    rw [hspent] at hk
    cases hk with
    | nil => apply haffect

variable (db) in
/-- A client that has read the row in a run carries the token that the row had, and its update
affects the row exactly when no other has affected it since, and the update suits the row. -/
theorem affects_after_read_iff {row : StoredRow} (hf : e.token = some f)
    (hn : row.get f.column = .int n) {before between : List Move} {client : Nat}
    (hbefore : ∀ m ∈ before, m.Spares f.column) (hbetween : ∀ m ∈ between, m.Spares f.column)
    (hreads : ∀ m ∈ between, m ≠ .read client) (u : Update) (stamp : Option Stamp) :
  ((start row).after db e (before ++ .read client :: between)).seen client
      = ((start row).after db e before).token e
    ∧ (((start row).after db e (before ++ .read client :: between)).affects db e
        (.update client u stamp) = true
      ↔ ((start row).after db e (before ++ [.read client])).spent db e between = []
        ∧ ((start row).after db e (before ++ .read client :: between)).suits db e u stamp = true)
  := by
  obtain ⟨j, -, hj⟩ := (versioned_start hn).after db hf hbefore
  obtain ⟨hseen, hread⟩ := hj.read db hf client
  rw [after_append, after_append]
  constructor
  · rw [hj.token hf, ← hseen]
    apply seen_after hreads
  · apply hread.affects_update_iff hf hseen hbetween hreads u stamp

/-! ### Lost updates -/

variable (db) in
/-- Among reads and updates no two updates that affect the row carry the same token, the token
counts them, and an update does not affect the row when another has affected it since the token was
read. -/
theorem no_lost_update {row : StoredRow} (hf : e.token = some f) (hn : row.get f.column = .int n)
    {moves : List Move} (hmoves : ∀ m ∈ moves, m.isDeletion = false) :
  ((start row).spent db e moves).Nodup
    ∧ (∃ k : Int64, ((start row).after db e moves).row.get f.column = .int k
      ∧ k.toInt = n.toInt + ((start row).spent db e moves).length)
    ∧ ∀ before client between u stamp later,
      moves = before ++ .read client :: between ++ .update client u stamp :: later →
      (∀ m ∈ between, m ≠ .read client) →
      ((start row).after db e (before ++ .read client :: between)).affects db e
        (.update client u stamp) = true →
      ((start row).after db e (before ++ .read client :: between)).seen client
          = ((start row).after db e before).token e
        ∧ ((start row).after db e (before ++ [.read client])).spent db e between = []
  := by
  have hspares : ∀ m ∈ moves, m.Spares f.column := by
    intro m hm hdeletion
    rw [hmoves m hm] at hdeletion
    contradiction
  obtain ⟨k, hk, hafter⟩ := (versioned_start hn).after db hf hspares
  refine ⟨hk.nodup, ⟨k, hafter.row, hk.toInt_eq⟩, ?_⟩
  rintro before client between u stamp later rfl hreads haffect
  have hbefore : ∀ m ∈ before, m.Spares f.column := by
    intro m hm
    apply hspares
    simp [hm]
  have hbetween : ∀ m ∈ between, m.Spares f.column := by
    intro m hm
    apply hspares
    simp [hm]
  obtain ⟨hcarried, hiff⟩ := affects_after_read_iff db hf hn hbefore hbetween hreads u stamp
  use hcarried, (hiff.mp haffect).1

/-! ### A race for a lot -/

/-- A database that knows nothing but integers. -/
def integers : Database where
  holds row c :=
    match c with
    | .compare column .equal (.int n) =>
      match row.get column with
      | .int m => m == n
      | _ => false
    | _ => false
  above? v :=
    match v with
    | .int n => (int64Of? (n.toInt + 1)).map .int
    | _ => none
  holds_equal := by
    intro row column m n h
    simp [h]
  above?_int := by
    intro n v h
    obtain ⟨k, hk, rfl⟩ := Option.map_eq_some_iff.mp h
    use k, rfl
    apply toInt_of_int64Of? hk

/-- The lot with the number 9 at version 1. -/
def lotRow : StoredRow :=
  ((⟨lot.table, fun _ => .null⟩ : StoredRow).put lotKey.column (.int 9)).put
    lotVersion.column (.int 1)

/-- A client gives the lot a new label. -/
def relabel (client : Nat) : Move :=
  .update client relabeling (some editing)

/-- The modification of a new label. -/
def relabelModification : Modification :=
  relabeling.modification ⟨lot, [(lotLabel, .text "A")]⟩ (some editing)

theorem affect?_relabel {client : Nat} (hseen : w.seen client = some (.int 1)) :
  w.affect? integers lot (relabel client) = relabelModification.affect? integers w.row
  := by
  have hcompile : relabeling.compile lot (some editing)
      = .ok relabelModification.fragment.build := by rfl
  rw [relabel, affect?, hseen]
  apply Update.affect?_eq hcompile rfl

/-- Two clients have read the lot at version 1. -/
def bothRead : World :=
  ((start lotRow).move integers lot (.read 1)).move integers lot (.read 2)

theorem spent_bothRead :
  bothRead.spent integers lot [relabel 2] = [some (.int 1)]
  := by
  have haffects : bothRead.affects integers lot (relabel 2) = true := by
    rw [affects, affect?_relabel rfl]
    decide +kernel
  rw [spent, relabel, spends, ← relabel, haffects]
  rfl

/-- The update of the second client affects the lot and moves it on to version 2, and the update of
the first one comes too late. -/
theorem no_lost_update_relabel :
  bothRead.spent integers lot [relabel 2] = [some (.int 1)]
    ∧ (∃ k : Int64, (bothRead.move integers lot (relabel 2)).row.get lotVersion.column = .int k
      ∧ k.toInt = 2)
    ∧ (bothRead.move integers lot (relabel 2)).affects integers lot (relabel 1) = false
  := by
  have htoken : lot.token = some lotVersion := by rfl
  have hversion : lotRow.get lotVersion.column = .int 1 := by rfl
  have hearly : ∀ m ∈ [.read 1, .read 2, relabel 2], m.isDeletion = false := by
    simp [relabel, Move.isDeletion]
  have hmoves : ∀ m ∈ [.read 1, .read 2, relabel 2, relabel 1], m.isDeletion = false := by
    simp [relabel, Move.isDeletion]
  have hspent := spent_bothRead
  rw [bothRead] at *
  use hspent
  constructor
  · obtain ⟨-, ⟨k, hk, hcount⟩, -⟩ := no_lost_update integers htoken hversion hearly
    use k, hk
    rw [spent_read, spent_read, hspent] at hcount
    rw [hcount]
    rfl
  · obtain ⟨-, -, hlate⟩ := no_lost_update integers htoken hversion hmoves
    rw [Bool.eq_false_iff]
    intro haffects
    obtain ⟨-, hnone⟩ := hlate [] 1 [.read 2, relabel 2] _ _ [] rfl (by simp [relabel]) haffects
    rw [spent_read, List.nil_append, after, List.foldl_cons, List.foldl_nil, hspent] at hnone
    contradiction

end World

end BoundSql
