import BoundSql.Guard.DeleteGuard
import BoundSql.Proofs.Guard.Evaluation
import BoundSql.Proofs.Session.Connection

/-!
# Guarded deletions

A guarded deletion first inquires: it loads the rules of the owner and puts
their questions. The inquiry permits the deletion when it loads rules that are
enabled, all of them pass, and the signal has not fired until then. The deletion
is issued after an inquiry that permits it, and never otherwise. Inside a
transaction it is committed when it gives a result and rolled back when it
fails.
-/

namespace BoundSql

namespace Guard

variable {column : String} {params : ParameterBag} {s t : Signalled Connection}

/-! ### Questions on a connection -/

/-- A question is put to a connection by sending it. -/
theorem probe_sends (question : Statement) (column : String) (c : Connection) :
  (Connection.probe question column c).2 = (Connection.send question c).2
  := rfl

/-- Rules that pass have sent their questions. -/
theorem Passing.after {rules : List GuardRule} {questions : List Statement}
    (h : Passing Connection.probe column params s rules questions t) :
  t.state = s.state.after questions
    ∧ List.Forall₂ (fun rule question => rule.Asks params question) rules questions
  := by
  induction h with
  | nil => simp
  | cons hrule _ ih =>
      obtain ⟨hquestion, hprobe, _, _⟩ := hrule
      obtain ⟨hstate, hquestions⟩ := ih
      have hsend := congrArg Prod.snd hprobe
      rw [probe_sends] at hsend
      simp [hstate, hquestions, hquestion, hsend]

/-- A rule that stops the evaluation has sent its question, if it put one. -/
theorem Stops.after {rule : GuardRule} {put : List Statement} {r : Except Error Decision}
    (h : Stops Connection.probe column params s rule put r t) :
  t.state = s.state.after put
    ∧ (put = [] ∨ List.Forall₂ (fun rule question => rule.Asks params question) [rule] put)
  := by
  cases h with
  | fired => simp
  | unaskable _ => simp
  | interrupted hquestion hprobe =>
      simpa [hquestion, probe_sends] using (congrArg Prod.snd hprobe).symm
  | failed hquestion hprobe _ =>
      simpa [hquestion, probe_sends] using (congrArg Prod.snd hprobe).symm
  | refused hquestion hprobe _ _ =>
      simpa [hquestion, probe_sends] using (congrArg Prod.snd hprobe).symm

end Guard

namespace DeleteGuard

variable (g : DeleteGuard) (owner : String) (params : ParameterBag)

/-! ### Inquiries -/

/-- Loads the rules of an owner, whatever the signal does. -/
def loading : Query (List GuardRule) :=
  (Connection.query (g.rules.load owner)).andThen fun rows => rows.mapM GuardRule.ofRow

/-- The statements of an inquiry: none when the signal has fired, else the load, and the questions
of an initial stretch of the enabled rules that it gives, by place. -/
inductive Inquires : Signalled Connection → List Statement → Prop where
  | cancelled {c : Connection} : Inquires ⟨true, c⟩ []
  | load {c : Connection} : Inquires ⟨false, c⟩ [g.rules.load owner]
  | questions {c : Connection} {rules before rest : List GuardRule} {questions : List Statement}
      (hload : (g.loading owner c).1.answer = .ok rules)
      (hordered : GuardRule.Ordered rules (before ++ rest))
      (hquestions : List.Forall₂ (fun rule question => rule.Asks params question) before
        questions) :
      Inquires ⟨false, c⟩ (g.rules.load owner :: questions)

/-- An inquiry permits the deletion: it loads rules of which some are enabled, the enabled ones all
pass, and the signal has not fired. -/
inductive Permits : Signalled Connection → List Statement → Prop where
  | intro {c loaded asked : Connection} {rules ordered : List GuardRule}
      {questions : List Statement} (hload : g.loading owner c = (⟨.ok rules, .never⟩, loaded))
      (henabled : ∃ rule ∈ rules, rule.enabled = true)
      (hordered : GuardRule.Ordered rules ordered)
      (hpassing : Guard.Passing Connection.probe g.column params ⟨false, loaded⟩ ordered questions
        ⟨false, asked⟩) :
      Permits ⟨false, c⟩ (g.rules.load owner :: questions)

variable {g owner params}

theorem loading_sends (c : Connection) :
  (g.loading owner c).2 = c.after [g.rules.load owner]
  := rfl

variable (g owner) in
theorem runWith_load (c : Connection) :
  (g.load owner).runWith false c = ((g.loading owner c).1.answer,
    ⟨(g.loading owner c).1.firing != .never, (g.loading owner c).2⟩)
  := rfl

section

variable {c loaded : Connection} {answer : Except Error (List GuardRule)} {firing : Firing}
  (hload : g.loading owner c = (⟨answer, firing⟩, loaded))

include hload

theorem eq_after_of_loading :
  loaded = c.after [g.rules.load owner]
  := by
  rw [← loading_sends, hload]

theorem runWith_check_of_error {e : Error} (ha : answer = .error e) :
  (g.check owner params).runWith false c = (.error e, ⟨firing != .never, loaded⟩)
  := by
  have hrun := runWith_load g owner c
  rw [hload, ha] at hrun
  apply Task.runWith_bind_error hrun

theorem runWith_check_of_ok {rules : List GuardRule} (ha : answer = .ok rules) :
  (g.check owner params).runWith false c
    = (Guard.evaluate Connection.probe g.column rules params).runWith (firing != .never) loaded
  := by
  have hrun := runWith_load g owner c
  rw [hload, ha] at hrun
  apply Task.runWith_bind_ok hrun

end

section

variable {c loaded : Connection} {rules before rest : List GuardRule} {rule : GuardRule}
  {questions put : List Statement} {t u : Signalled Connection}
  (hload : g.loading owner c = (⟨.ok rules, .never⟩, loaded))
  (hpassing : Guard.Passing Connection.probe g.column params ⟨false, loaded⟩ before questions t)

include hload hpassing

/-- The questions of rules that pass belong to the inquiry. -/
theorem inquires_of_passing (hordered : GuardRule.Ordered rules (before ++ rest)) :
  g.Inquires owner params ⟨false, c⟩ (g.rules.load owner :: questions)
    ∧ t.state = c.after (g.rules.load owner :: questions)
  := by
  obtain ⟨hasked, hquestions⟩ := hpassing.after
  rw [eq_after_of_loading hload] at hasked
  use .questions (congrArg (·.1.answer) hload) hordered hquestions
  apply hasked

/-- So does the question of the rule that stops the evaluation. -/
theorem inquires_of_stops {r : Except Error Decision}
    (hordered : GuardRule.Ordered rules (before ++ rule :: rest))
    (hstops : Guard.Stops Connection.probe g.column params t rule put r u) :
  g.Inquires owner params ⟨false, c⟩ (g.rules.load owner :: (questions ++ put))
    ∧ u.state = c.after (g.rules.load owner :: (questions ++ put))
  := by
  obtain ⟨hinquires, hasked⟩ := inquires_of_passing hload hpassing hordered
  obtain ⟨hstopped, hput⟩ := hstops.after
  rw [hstopped, hasked, ← Connection.after_append]
  use ?_
  · rfl
  · rcases hput with rfl | hput
    · rw [List.append_nil]
      apply hinquires
    · rw [List.append_cons] at hordered
      apply Inquires.questions (congrArg (·.1.answer) hload) hordered
      apply List.rel_append hpassing.after.2 hput

end

theorem Permits.inquires {s : Signalled Connection} {inquiry : List Statement}
    (h : g.Permits owner params s inquiry) :
  g.Inquires owner params s inquiry
  := by
  obtain @⟨_, _, _, _, ordered, _, hload, _, hordered, hpassing⟩ := h
  rw [← List.append_nil ordered] at hordered
  apply (inquires_of_passing hload hpassing hordered).1

/-- An inquiry that permits the deletion allows it and leaves the signal alone. -/
theorem Permits.runWith_check {s : Signalled Connection} {inquiry : List Statement}
    (h : g.Permits owner params s inquiry) :
  (g.check owner params).runWith s.fired s.state
    = (.ok .allowed, ⟨false, s.state.after inquiry⟩)
  := by
  obtain ⟨hload, henabled, hordered, hpassing⟩ := h
  obtain rfl := hordered.eq_asked
  rw [← List.append_nil (GuardRule.asked _)] at hordered
  have hasked := (inquires_of_passing hload hpassing hordered).2
  rw [runWith_check_of_ok hload rfl, ← hasked]
  apply Eq.trans (Guard.runWith_evaluate _ _ _ _ _)
  rw [if_neg ((GuardRule.asked_ne_nil_iff _).mpr henabled)]
  apply Guard.runWith_askRules_of_passing hpassing

/-- Behind a load that gives rules, an inquiry puts their questions. -/
theorem evaluate_inquires {c loaded : Connection} {rules : List GuardRule}
    (hload : g.loading owner c = (⟨.ok rules, .never⟩, loaded)) :
  ∃ inquiry r fired, g.Inquires owner params ⟨false, c⟩ inquiry
    ∧ (Guard.evaluate Connection.probe g.column rules params).runWith false loaded
      = (r, ⟨fired, c.after inquiry⟩)
    ∧ (r = .ok .allowed → fired = false → g.Permits owner params ⟨false, c⟩ inquiry)
  := by
  have hordered := GuardRule.ordered_asked rules
  rw [Guard.runWith_evaluate]
  split
  · use [g.rules.load owner], .ok .noRules, false, .load
    simp [eq_after_of_loading hload]
  · next henabled =>
      rcases Guard.askRules_cases Connection.probe g.column params (GuardRule.asked rules)
          ⟨false, loaded⟩ with
        ⟨questions, t, hpassing, hrun⟩
        | ⟨before, rule, rest, questions, t, put, r, u, hrules, hpassing, hstops, hrun⟩
      · rw [← List.append_nil (GuardRule.asked rules)] at hordered
        obtain ⟨hinquires, hasked⟩ := inquires_of_passing hload hpassing hordered
        rw [List.append_nil] at hordered
        use g.rules.load owner :: questions, .ok .allowed, t.fired, hinquires
        rw [← hasked]
        use hrun
        intro _ hfired
        obtain ⟨fired, asked⟩ := t
        obtain rfl := hfired
        apply Permits.intro hload ((GuardRule.asked_ne_nil_iff rules).mp henabled) hordered hpassing
      · rw [hrules] at hordered
        obtain ⟨hinquires, hasked⟩ := inquires_of_stops hload hpassing hordered hstops
        use g.rules.load owner :: (questions ++ put), r, u.fired, hinquires
        rw [← hasked]
        use hrun
        intro hr
        cases hstops.ne_allowed hr

/-- An inquiry is made, and it permits the deletion if it allows it before the signal fires. -/
theorem check_inquires (s : Signalled Connection) :
  ∃ inquiry r fired, g.Inquires owner params s inquiry
    ∧ (g.check owner params).runWith s.fired s.state = (r, ⟨fired, s.state.after inquiry⟩)
    ∧ (r = .ok .allowed → fired = false → g.Permits owner params s inquiry)
  := by
  obtain ⟨fired, c⟩ := s
  cases fired with
  | true =>
      use [], .error .cancelled, true, .cancelled
      simp only [reduceCtorEq, false_implies, and_true]
      rfl
  | false =>
      rcases hload : g.loading owner c with ⟨⟨answer, firing⟩, loaded⟩
      have hloaded := eq_after_of_loading hload
      cases answer with
      | error e =>
          use [g.rules.load owner], .error e, firing != .never, .load
          rw [← hloaded]
          use runWith_check_of_error hload rfl
          simp
      | ok rules =>
          rw [runWith_check_of_ok hload rfl]
          by_cases hfiring : firing = .never
          · subst hfiring
            apply evaluate_inquires hload
          · use [g.rules.load owner], .error .cancelled, true, .load
            rw [← hloaded, (bne_iff_ne.mpr hfiring : (firing != .never) = true)]
            simp only [reduceCtorEq, false_implies, and_true]
            rfl

/-! ### Guarded deletions -/

theorem execute_sends (deletion : Statement) (c : Connection) :
  (Connection.execute deletion c).2 = c.after [deletion]
  := rfl

variable {deletion : Statement} {s t : Signalled Connection}

variable (deletion) in
theorem runWith_guardedDelete_of_error {e : Error}
    (h : (g.check owner params).runWith s.fired s.state = (.error e, t)) :
  (g.guardedDelete owner params deletion).runWith s.fired s.state = (.error e, t)
  := by
  apply Task.runWith_bind_error h

variable (deletion) in
/-- A decision that allows the deletion has it raced against the signal; any other one fails. -/
theorem runWith_guardedDelete_of_ok {d : Decision}
    (h : (g.check owner params).runWith s.fired s.state = (.ok d, t)) :
  (g.guardedDelete owner params deletion).runWith s.fired s.state
    = match d.result with
      | .ok _ => (Task.race (Connection.execute deletion)).runWith t.fired t.state
      | .error e => (.error e, t)
  := by
  rw [guardedDelete, Task.runWith_bind_ok h]
  cases hd : d.result with
  | ok _ => apply Task.runWith_bind_ok (Task.runWith_lift (.ok ()) t.fired t.state)
  | error e => apply Task.runWith_bind_error (Task.runWith_lift (.error e) t.fired t.state)

variable (deletion) in
/-- An inquiry that permits the deletion has it issued. -/
theorem runWith_guardedDelete_of_permits {inquiry : List Statement}
    (h : g.Permits owner params s inquiry) :
  ∃ fired, (g.guardedDelete owner params deletion).runWith s.fired s.state
    = (Task.raced (Connection.execute deletion (s.state.after inquiry)).1,
      ⟨fired, s.state.after (inquiry ++ [deletion])⟩)
  := by
  use (Connection.execute deletion (s.state.after inquiry)).1.firing != .never
  rw [runWith_guardedDelete_of_ok deletion h.runWith_check, Connection.after_append,
    ← execute_sends]
  apply Task.runWith_race

variable (deletion) in
/-- Without an inquiry that permits it, the deletion is not issued and fails. -/
theorem runWith_guardedDelete_of_not_permits
    (h : ∀ inquiry, ¬ g.Permits owner params s inquiry) :
  ∃ inquiry e fired, g.Inquires owner params s inquiry
    ∧ (g.guardedDelete owner params deletion).runWith s.fired s.state
      = (.error e, ⟨fired, s.state.after inquiry⟩)
  := by
  obtain ⟨inquiry, r, fired, hinquires, hrun, hpermits⟩ := check_inquires s
  cases r with
  | error e =>
      use inquiry, e, fired, hinquires
      apply runWith_guardedDelete_of_error deletion hrun
  | ok d =>
      have hdelete := runWith_guardedDelete_of_ok deletion hrun
      cases hd : d.result with
      | error e =>
          rw [hd] at hdelete
          use inquiry, e, fired, hinquires, hdelete
      | ok _ =>
          obtain rfl : d = .allowed := by
            cases d with
            | allowed => rfl
            | _ => cases hd
          -- The decision came too late: the signal stops the deletion itself.
          cases fired with
          | true =>
              use inquiry, .cancelled, true, hinquires
              apply hdelete.trans (Task.runWith_race_fired _ _)
          | false => cases h inquiry (hpermits rfl rfl)

/-- A guarded deletion inquires, and then issues the deletion if the inquiry permits it. -/
theorem guardedDelete_cases (g : DeleteGuard) (owner : String) (params : ParameterBag)
    (deletion : Statement) (s : Signalled Connection) :
  ∃ inquiry deletions r fired, g.Inquires owner params s inquiry
    ∧ (g.guardedDelete owner params deletion).runWith s.fired s.state
      = (r, ⟨fired, s.state.after (inquiry ++ deletions)⟩)
    ∧ (deletions = [deletion] ∧ g.Permits owner params s inquiry
      ∨ deletions = [] ∧ (∀ inquiry, ¬ g.Permits owner params s inquiry) ∧ ∃ e, r = .error e)
  := by
  by_cases h : ∃ inquiry, g.Permits owner params s inquiry
  · obtain ⟨inquiry, hpermits⟩ := h
    obtain ⟨fired, hrun⟩ := runWith_guardedDelete_of_permits deletion hpermits
    use inquiry, [deletion], Task.raced (Connection.execute deletion (s.state.after inquiry)).1,
      fired, hpermits.inquires, hrun
    left
    use rfl
  · rw [not_exists] at h
    obtain ⟨inquiry, e, fired, hinquires, hrun⟩ := runWith_guardedDelete_of_not_permits deletion h
    use inquiry, [], .error e, fired, hinquires
    rw [List.append_nil]
    use hrun
    right
    use rfl, h, e

variable (g owner params) in
/-- A run of a guarded deletion sends an inquiry, and then the deletion if the inquiry permits it;
otherwise the run fails. The statements are recorded, and nothing else is. -/
structure Issues (deletion : Statement) (s : Signalled Connection)
    (run : Except Error Nat × Signalled Connection) (inquiry deletions : List Statement)
    (entries : List Sent) : Prop where
  inquires : g.Inquires owner params s inquiry
  decides : deletions = [deletion] ∧ g.Permits owner params s inquiry
    ∨ deletions = [] ∧ (∀ inquiry, ¬ g.Permits owner params s inquiry) ∧ ∃ e, run.1 = .error e
  state : run.2.state = s.state.after (inquiry ++ deletions)
  records : Sent.RecordsAll s.state.replies (inquiry ++ deletions) entries
  sent : run.2.state.sent = s.state.sent ++ entries

/-- A guarded deletion issues statements. -/
theorem exists_issues (g : DeleteGuard) (owner : String) (params : ParameterBag)
    (deletion : Statement) (s : Signalled Connection) :
  ∃ inquiry deletions entries, g.Issues owner params deletion s
    ((g.guardedDelete owner params deletion).runWith s.fired s.state) inquiry deletions entries
  := by
  obtain ⟨inquiry, deletions, r, fired, hinquires, hrun, hcases⟩ :=
    guardedDelete_cases g owner params deletion s
  obtain ⟨entries, hrecords, hafter⟩ := s.state.after_recorded (inquiry ++ deletions)
  use inquiry, deletions, entries
  rw [hrun]
  use hinquires, hcases, rfl, hrecords
  rw [hafter]

/-- Inside a transaction that could be begun, a guarded deletion issues statements, and then comes
the command that commits the transaction or rolls it back. -/
theorem transaction_guardedDelete (g : DeleteGuard) (owner : String) (params : ParameterBag)
    (deletion : Statement) (fired : Bool) (c : Connection)
    (hopening : c.refused.lookup (Connection.opening c.depth).text = none) :
  ∃ inquiry deletions entries last, g.Issues owner params deletion ⟨fired, c.opened⟩
        ((g.guardedDelete owner params deletion).runWith fired c.opened) inquiry deletions entries
    ∧ (Connection.transaction
        (Connection.batch [(g.guardedDelete owner params deletion).start fired]) c).2.sent
      = c.sent ++ .control (Connection.opening c.depth) :: (entries ++ [.control last])
    ∧ (last = Connection.closing c.depth
      ↔ ∃ n, ((g.guardedDelete owner params deletion).runWith fired c.opened).1 = .ok n)
    ∧ (last = Connection.undoing c.depth
      ↔ ∃ e, ((g.guardedDelete owner params deletion).runWith fired c.opened).1 = .error e)
  := by
  obtain ⟨inquiry, deletions, entries, hissues⟩ :=
    exists_issues g owner params deletion ⟨fired, c.opened⟩
  obtain ⟨hstate, hnone, hsome⟩ :=
    Connection.batch_singleton ((g.guardedDelete owner params deletion).start fired) c.opened
  use inquiry, deletions, entries, Connection.ending c.depth (Connection.batch
    [(g.guardedDelete owner params deletion).start fired] c.opened).1.failure, hissues
  refine ⟨?_, ?_, ?_⟩
  · rw [Connection.transaction_sent _ c hopening, hstate]
    apply Eq.trans (congrArg (· ++ _) hissues.sent)
    simp [Connection.opened, Connection.record]
  · rw [Connection.ending_eq_closing_iff, hnone]
    rfl
  · rw [Connection.ending_eq_undoing_iff, hsome]
    rfl

/-- A guarded deletion issues its inquiry, and then the deletion exactly when the inquiry permits
it; otherwise it fails. Inside a transaction that could be begun, the transaction is committed
exactly when the guarded deletion gives a result and rolled back exactly when it fails. -/
theorem guardedDelete_issues (g : DeleteGuard) (owner : String) (params : ParameterBag)
    (deletion : Statement) (fired : Bool) (c : Connection) :
  (∃ inquiry deletions entries, g.Issues owner params deletion ⟨fired, c⟩
      ((g.guardedDelete owner params deletion).runWith fired c) inquiry deletions entries)
    ∧ (c.refused.lookup (Connection.opening c.depth).text = none →
      ∃ inquiry deletions entries last, g.Issues owner params deletion ⟨fired, c.opened⟩
            ((g.guardedDelete owner params deletion).runWith fired c.opened) inquiry deletions
            entries
        ∧ (Connection.transaction
            (Connection.batch [(g.guardedDelete owner params deletion).start fired]) c).2.sent
          = c.sent ++ .control (Connection.opening c.depth) :: (entries ++ [.control last])
        ∧ (last = Connection.closing c.depth
          ↔ ∃ n, ((g.guardedDelete owner params deletion).runWith fired c.opened).1 = .ok n)
        ∧ (last = Connection.undoing c.depth
          ↔ ∃ e, ((g.guardedDelete owner params deletion).runWith fired c.opened).1 = .error e))
  := by
  constructor
  · apply exists_issues g owner params deletion ⟨fired, c⟩
  · apply transaction_guardedDelete

/-- A guard whose rules answer in the column `can_delete`. -/
def ruleGuard : DeleteGuard :=
  ⟨⟨"rule", by decide⟩, "can_delete"⟩

/-- A rule without markers, and one that is not enabled and comes before it. -/
def freeAndIdle : List GuardRule :=
  [⟨1, "task", "free", "SELECT true", true, 0⟩, ⟨0, "task", "idle", "SELECT false", false, 0⟩]

/-- A deletion by number. -/
def numberedDeletion : Statement :=
  ⟨"DELETE FROM task WHERE id = $1", [.int 7]⟩

/-- A connection on which the database gives a rule without markers and one that is not enabled,
answers the first one with true, and deletes one row. -/
def permittingConnection : Connection where
  replies :=
    [{ types := some [.text, .bool, .bool]
       columns := [("id", .int8), ("owner_entity_id", .text), ("name", .text),
         ("predicate_sql", .text), ("enabled", .bool), ("evaluation_order", .int4)]
       rows := [[some [0, 0, 0, 0, 0, 0, 0, 1], some "task".toUTF8.data.toList,
         some "free".toUTF8.data.toList, some "SELECT true".toUTF8.data.toList, some [1],
         some [0, 0, 0, 0]],
         [some [0, 0, 0, 0, 0, 0, 0, 0], some "task".toUTF8.data.toList,
         some "idle".toUTF8.data.toList, some "SELECT false".toUTF8.data.toList, some [0],
         some [0, 0, 0, 0]]] },
     { columns := [("can_delete", .bool)], rows := [[some [1]]] },
     { types := some [.int8], affected := 1 }]

theorem eq_answered {σ α : Type} {a : Awaited α × σ} {b : α}
    (hanswer : a.1.answer.toOption = some b) (hfiring : a.1.firing = .never) :
  a = (⟨.ok b, .never⟩, a.2)
  := by
  obtain ⟨⟨answer, firing⟩, s⟩ := a
  cases hfiring
  cases answer with
  | error e => cases hanswer
  | ok _ =>
      cases hanswer
      rfl

theorem permits_permittingConnection :
  ruleGuard.Permits "task" .empty ⟨false, permittingConnection.opened⟩
    [ruleGuard.rules.load "task", ⟨"SELECT true", []⟩]
  := by
  have hload : ruleGuard.loading "task" permittingConnection.opened
      = (⟨.ok freeAndIdle, .never⟩, (ruleGuard.loading "task" permittingConnection.opened).2) := by
    apply eq_answered
    · decide +kernel
    · decide +kernel
  have hasked : GuardRule.asked freeAndIdle = freeAndIdle.take 1 :=
    List.mergeSort_of_pairwise (by decide)
  have hquestion : (freeAndIdle.head (by decide)).Asks .empty ⟨"SELECT true", []⟩ := by
    rw [GuardRule.asks_iff, GuardRule.question_eq_ok_iff]
    have hnames : Marker.names "SELECT true" = [] := by decide +kernel
    simp only [freeAndIdle, List.head_cons, hnames]
    simp
    decide +kernel
  have hordered := GuardRule.ordered_asked freeAndIdle
  rw [hasked] at hordered
  apply Permits.intro hload (by decide) hordered
  apply Guard.Passing.cons
  · apply Guard.Passes.intro hquestion
    · apply Prod.ext
      · rfl
      · rfl
    · decide
    · rfl
  · apply Guard.Passing.nil

/-- What is recorded when the deletion by number is permitted. -/
def permittedEntries : List Sent :=
  [.statement (ruleGuard.rules.load "task").sql
      (some [some "task".toUTF8.data.toList, some [1], some [0]]),
    .statement "SELECT true" (some []),
    .statement "DELETE FROM task WHERE id = $1" (some [some [0, 0, 0, 0, 0, 0, 0, 7]])]

theorem sent_permittingConnection :
  (permittingConnection.opened.after
      ([ruleGuard.rules.load "task", ⟨"SELECT true", []⟩] ++ [numberedDeletion])).sent
    = .control .start :: permittedEntries
  := rfl

/-- A deletion that is permitted inside a transaction is committed. -/
theorem guardedDelete_issues_committed :
  ruleGuard.Permits "task" .empty ⟨false, permittingConnection.opened⟩
      [ruleGuard.rules.load "task", ⟨"SELECT true", []⟩]
    ∧ permittingConnection.refused.lookup (Connection.opening 0).text = none
    ∧ (Connection.transaction (Connection.batch
        [(ruleGuard.guardedDelete "task" .empty numberedDeletion).start false])
        permittingConnection).2.sent
      = .control .start :: (permittedEntries ++ [.control .commit])
  := by
  have hopening : permittingConnection.refused.lookup (Connection.opening 0).text = none := rfl
  obtain ⟨_, _, entries, last, hissues, hsent, hcommitted, _⟩ := (guardedDelete_issues ruleGuard
    "task" .empty numberedDeletion false permittingConnection).2 hopening
  obtain ⟨fired, hrun⟩ :=
    runWith_guardedDelete_of_permits numberedDeletion permits_permittingConnection
  have hdeleted : ((ruleGuard.guardedDelete "task" .empty numberedDeletion).runWith false
      permittingConnection.opened).1 = .ok 1 := by
    apply (congrArg Prod.fst hrun).trans
    rfl
  obtain rfl := hcommitted.mpr ⟨1, hdeleted⟩
  obtain rfl : entries = permittedEntries := by
    have hentries := hissues.sent
    rw [hrun, sent_permittingConnection] at hentries
    apply (List.cons.inj hentries).2.symm
  use permits_permittingConnection, hopening, hsent

end DeleteGuard

end BoundSql
