import BoundSql.Guard.Evaluation
import BoundSql.Proofs.Task
import BoundSql.Proofs.Value.Truth
import Mathlib.Data.List.Forall2
import Mathlib.Tactic.Use

/-!
# Asking rules

A rule that is asked passes or stops the evaluation. It passes when its
question can be put and the answer counts as true before the signal fires. It
stops the evaluation when the signal has fired, when its question cannot be
put, when the signal fires or the probe fails before there is an answer, and
when the answer is anything but true. Rules asked one after the other all pass,
or some of them pass and the next one stops the evaluation.
-/

namespace BoundSql

open BoundSql.Text

/-! ### Questions and answers -/

/-- Why the question of a rule cannot be put: its predicate is refused, or values are missing. -/
inductive GuardRule.Unaskable (r : GuardRule) (params : ParameterBag) : RuleFault → Prop where
  | predicate {fault : RuleFault} (h : Predicate.fault? r.predicate = some fault) :
      Unaskable r params fault
  | parameters {missing : List String} (h : Predicate.fault? r.predicate = none)
      (hmissing : (Marker.names r.predicate).filter (!params.contains ·) = missing)
      (hne : missing ≠ []) : Unaskable r params (.missingParameters missing)

theorem GuardRule.question_eq_error_iff (r : GuardRule) (params : ParameterBag)
    (fault : RuleFault) :
  r.question params = .error fault ↔ r.Unaskable params fault
  := by
  constructor
  · intro h
    simp only [question] at h
    split at h
    · next f hf =>
        obtain rfl := Except.error.inj h
        apply Unaskable.predicate hf
    · next hf =>
        split at h
        · contradiction
        · next hmissing =>
            obtain rfl := Except.error.inj h
            apply Unaskable.parameters hf rfl
            simpa using hmissing
  · intro h
    cases h with
    | predicate h => simp only [question, h]
    | parameters h hmissing hne => simp [question, h, hmissing, hne]

/-- The question of a rule is its predicate with placeholders, and the values of its markers. -/
theorem GuardRule.question_eq_ok_iff (r : GuardRule) (params : ParameterBag)
    (statement : Statement) :
  r.question params = .ok statement ↔ Predicate.fault? r.predicate = none
    ∧ (∀ name ∈ Marker.names r.predicate, params.contains name = true)
    ∧ statement = ⟨Marker.withPlaceholders (Marker.names r.predicate) r.predicate,
      (Marker.names r.predicate).map fun n => ((params.get? n).map Value.ofJson).getD .null⟩
  := by
  cases hfault : Predicate.fault? r.predicate with
  | some fault => simp [question, hfault]
  | none =>
      have hknown : ((Marker.names r.predicate).filter (!params.contains ·)).isEmpty = true
          ↔ ∀ name ∈ Marker.names r.predicate, params.contains name = true := by
        simp
      simp only [question, hfault, ← hknown, true_and]
      split
      · next h =>
          rw [Except.ok.injEq, eq_comm]
          simp only [h, true_and]
      · next h => simp [h]

/-- A statement asks a rule: nothing keeps its question from being put, and the statement is the
predicate with placeholders, with the values that the bag has of its markers. -/
structure GuardRule.Asks (r : GuardRule) (params : ParameterBag) (statement : Statement) :
    Prop where
  askable : ∀ fault, ¬ r.Unaskable params fault
  text : statement.sql = Marker.withPlaceholders (Marker.names r.predicate) r.predicate
  values : List.Forall₂ (fun name v => ∃ j, params.get? name = some j ∧ v = Value.ofJson j)
    (Marker.names r.predicate) statement.params

/-- The question of a rule is the statement that asks it. -/
theorem GuardRule.asks_iff (r : GuardRule) (params : ParameterBag) (statement : Statement) :
  r.Asks params statement ↔ r.question params = .ok statement
  := by
  constructor
  · intro h
    obtain ⟨haskable, htext, hvalues⟩ := h
    cases hquestion : r.question params with
    | error fault =>
        cases haskable fault ((r.question_eq_error_iff params fault).mp hquestion)
    | ok question =>
        obtain ⟨_, _, rfl⟩ := (r.question_eq_ok_iff params question).mp hquestion
        rw [Except.ok.injEq, Statement.mk.injEq]
        use htext.symm
        rw [← List.forall₂_eq_eq_eq, List.forall₂_map_left_iff]
        apply hvalues.imp
        rintro name _ ⟨j, hj, rfl⟩
        simp [hj]
  · intro h
    obtain ⟨_, hknown, rfl⟩ := (r.question_eq_ok_iff params statement).mp h
    constructor
    · intro fault hfault
      rw [← question_eq_error_iff, h] at hfault
      contradiction
    · rfl
    · rw [List.forall₂_map_right_iff, List.forall₂_same]
      intro name hname
      obtain ⟨j, hj⟩ := Option.isSome_iff_exists.mp (hknown name hname)
      use j, hj
      simp [hj]

/-- A rule is asked by one statement. -/
theorem GuardRule.Asks.unique {r : GuardRule} {params : ParameterBag}
    {statement statement' : Statement} (h : r.Asks params statement)
    (h' : r.Asks params statement') :
  statement' = statement
  := by
  rw [asks_iff] at h h'
  apply Except.ok.inj (h'.symm.trans h)

/-- What an answer that is not true decides: it says no, there is none, or it says nothing. -/
inductive ProbeOutcome.Refuses (rule column : String) : ProbeOutcome → Decision → Prop where
  | blocked {v : Value} (h : v.truth? = some false) : Refuses rule column (.value v) (.blocked rule)
  | noRow : Refuses rule column .noRow (.invalid rule .noRow)
  | missingColumn : Refuses rule column .missingColumn (.invalid rule (.missingColumn column))
  | null : Refuses rule column (.value .null) (.invalid rule (.nullColumn column))
  | notBoolean {v : Value} (hnull : v ≠ .null) (h : v.truth? = none) :
      Refuses rule column (.value v) (.invalid rule (.notBoolean column))

/-- A refusal is neither a permission nor the absence of rules. -/
theorem ProbeOutcome.Refuses.ne {rule column : String} {o : ProbeOutcome} {d : Decision}
    (h : o.Refuses rule column d) :
  d ≠ .allowed ∧ d ≠ .noRules
  := by
  cases h <;> simp

/-- The verdict on a value that is not null is its truth value. -/
theorem ProbeOutcome.verdict_value (column : String) {v : Value} (hv : v ≠ .null) :
  verdict column (.value v) = v.truth?.elim (.error (.notBoolean column)) .ok
  := by
  rw [verdict]
  · cases ht : v.truth? with
    | some b =>
        rw [(v.convert_boolean_iff b).mpr ht]
        rfl
    | none =>
        split
        · next b hb =>
            rw [(v.convert_boolean_iff b).mp hb] at ht
            contradiction
        · rfl
  · apply hv

theorem ProbeOutcome.verdict_of_truth? (column : String) {v : Value} {b : Bool}
    (h : v.truth? = some b) :
  verdict column (.value v) = .ok b
  := by
  rw [verdict_value]
  · rw [h]
    rfl
  · rintro rfl
    contradiction

/-- The decision that a verdict on a rule makes, unless the rule passes. -/
def Decision.ofVerdict? (rule : String) : Except RuleFault Bool → Option Decision
  | .ok true => none
  | .ok false => some (.blocked rule)
  | .error fault => some (.invalid rule fault)

/-- An answer counts as true or refuses the deletion. -/
theorem ProbeOutcome.verdict_cases (rule column : String) (o : ProbeOutcome) :
  (∃ v, o = .value v ∧ v.truth? = some true)
      ∧ Decision.ofVerdict? rule (o.verdict column) = none
    ∨ ∃ d, o.Refuses rule column d ∧ Decision.ofVerdict? rule (o.verdict column) = some d
  := by
  cases o with
  | noRow =>
      right
      use .invalid rule .noRow, .noRow
      rfl
  | missingColumn =>
      right
      use .invalid rule (.missingColumn column), .missingColumn
      rfl
  | value v =>
      cases ht : v.truth? with
      | some b =>
          rw [verdict_of_truth? column ht]
          cases b with
          | true =>
              left
              use ⟨v, rfl, ht⟩
              rfl
          | false =>
              right
              use .blocked rule, .blocked ht
              rfl
      | none =>
          right
          by_cases hv : v = .null
          · subst hv
            use .invalid rule (.nullColumn column), .null
            rfl
          · use .invalid rule (.notBoolean column), .notBoolean hv ht
            rw [verdict_value column hv, ht]
            rfl

namespace Guard

variable {σ : Type} (probe : Probe σ) (column : String) (params : ParameterBag)

/-! ### One rule -/

/-- A rule passes: its question is put, and the answer counts as true and comes before the signal
fires, if it does. -/
inductive Passes : Signalled σ → GuardRule → Statement → Signalled σ → Prop where
  | intro {rule : GuardRule} {question : Statement} {v : Value} {firing : Firing} {s t : σ}
      (hquestion : rule.Asks params question)
      (hprobe : probe question column s = (⟨.ok (.value v), firing⟩, t))
      (hfiring : firing ≠ .beforeAnswer) (htrue : v.truth? = some true) :
      Passes ⟨false, s⟩ rule question ⟨firing != .never, t⟩

/-- A rule stops the evaluation with a result; the questions put for it are listed. -/
inductive Stops : Signalled σ → GuardRule → List Statement → Except Error Decision →
    Signalled σ → Prop where
  | fired {rule : GuardRule} {s : σ} : Stops ⟨true, s⟩ rule [] (.error .cancelled) ⟨true, s⟩
  | unaskable {rule : GuardRule} {fault : RuleFault} {s : σ} (h : rule.Unaskable params fault) :
      Stops ⟨false, s⟩ rule [] (.ok (.invalid rule.name fault)) ⟨false, s⟩
  | interrupted {rule : GuardRule} {question : Statement} {answer : Except Error ProbeOutcome}
      {s t : σ} (hquestion : rule.Asks params question)
      (hprobe : probe question column s = (⟨answer, .beforeAnswer⟩, t)) :
      Stops ⟨false, s⟩ rule [question] (.error .cancelled) ⟨true, t⟩
  | failed {rule : GuardRule} {question : Statement} {e : Error} {firing : Firing} {s t : σ}
      (hquestion : rule.Asks params question)
      (hprobe : probe question column s = (⟨.error e, firing⟩, t))
      (hfiring : firing ≠ .beforeAnswer) :
      Stops ⟨false, s⟩ rule [question] (.error e) ⟨firing != .never, t⟩
  | refused {rule : GuardRule} {question : Statement} {o : ProbeOutcome} {firing : Firing}
      {d : Decision} {s t : σ} (hquestion : rule.Asks params question)
      (hprobe : probe question column s = (⟨.ok o, firing⟩, t))
      (hfiring : firing ≠ .beforeAnswer) (hrefuses : o.Refuses rule.name column d) :
      Stops ⟨false, s⟩ rule [question] (.ok d) ⟨firing != .never, t⟩

variable {probe column params} in
theorem Stops.ne_allowed {s t : Signalled σ} {rule : GuardRule} {questions : List Statement}
    {r : Except Error Decision} (h : Stops probe column params s rule questions r t) :
  r ≠ .ok .allowed
  := by
  cases h with
  | refused _ _ _ hrefuses => simp [hrefuses.ne]
  | _ => simp

/-- Asks a rule unless the signal has fired. -/
def step (rule : GuardRule) : Task σ (Option Decision) := do
  Task.check
  askRule probe column params rule

section

variable {probe column params} {rule : GuardRule} {question : Statement}
  {a : Awaited ProbeOutcome} {s t : σ} (hquestion : rule.Asks params question)
  (hprobe : probe question column s = (a, t))

include hquestion hprobe

theorem runWith_step_of_error {e : Error} (ha : Task.raced a = .error e) :
  (step probe column params rule).runWith false s = (.error e, ⟨a.firing != .never, t⟩)
  := by
  have hrace := Task.runWith_race (probe question column) s
  rw [hprobe, ha] at hrace
  rw [step, Task.runWith_bind_ok (Task.runWith_check s), askRule,
    (rule.asks_iff params question).mp hquestion]
  apply Task.runWith_bind_error hrace

theorem runWith_step_of_verdict {o : ProbeOutcome} (ha : Task.raced a = .ok o) :
  (step probe column params rule).runWith false s
    = (.ok (Decision.ofVerdict? rule.name (o.verdict column)), ⟨a.firing != .never, t⟩)
  := by
  have hrace := Task.runWith_race (probe question column) s
  rw [hprobe, ha] at hrace
  rw [step, Task.runWith_bind_ok (Task.runWith_check s), askRule,
    (rule.asks_iff params question).mp hquestion]
  apply Eq.trans (Task.runWith_bind_ok hrace _)
  rcases o.verdict column with fault | b
  · rfl
  · cases b <;> rfl

/-- A rule whose question is put passes or stops the evaluation. -/
theorem step_cases_of_question :
  (∃ u, Passes probe column params ⟨false, s⟩ rule question u
      ∧ (step probe column params rule).runWith false s = (.ok none, u))
    ∨ ∃ r u, Stops probe column params ⟨false, s⟩ rule [question] r u
      ∧ (step probe column params rule).runWith false s = (r.map some, u)
  := by
  obtain ⟨answer, firing⟩ := a
  by_cases hfiring : firing = .beforeAnswer
  · subst hfiring
    right
    use .error .cancelled, ⟨true, t⟩, .interrupted hquestion hprobe
    apply runWith_step_of_error hquestion hprobe rfl
  · have hraced : Task.raced ⟨answer, firing⟩ = answer := if_neg hfiring
    cases answer with
    | error e =>
        right
        use .error e, ⟨firing != .never, t⟩, .failed hquestion hprobe hfiring
        apply runWith_step_of_error hquestion hprobe hraced
    | ok o =>
        have hrun := runWith_step_of_verdict hquestion hprobe hraced
        rcases o.verdict_cases rule.name column with ⟨⟨v, rfl, hv⟩, hd⟩ | ⟨d, hrefuses, hd⟩
        · rw [hd] at hrun
          left
          use ⟨firing != .never, t⟩, .intro hquestion hprobe hfiring hv, hrun
        · rw [hd] at hrun
          right
          use .ok d, ⟨firing != .never, t⟩, .refused hquestion hprobe hfiring hrefuses, hrun

end

/-- A rule that is asked passes or stops the evaluation. -/
theorem step_cases (rule : GuardRule) (s : Signalled σ) :
  (∃ question t, Passes probe column params s rule question t
      ∧ (step probe column params rule).runWith s.fired s.state = (.ok none, t))
    ∨ ∃ questions r t, Stops probe column params s rule questions r t
      ∧ (step probe column params rule).runWith s.fired s.state = (r.map some, t)
  := by
  obtain ⟨fired, s⟩ := s
  cases fired with
  | true =>
      right
      use [], .error .cancelled, ⟨true, s⟩, .fired
      rfl
  | false =>
      cases hquestion : rule.question params with
      | error fault =>
          right
          have hfault := (rule.question_eq_error_iff params fault).mp hquestion
          use [], .ok (.invalid rule.name fault), ⟨false, s⟩, .unaskable hfault
          rw [step, Task.runWith_bind_ok (Task.runWith_check s), askRule, hquestion]
          rfl
      | ok question =>
          have hprobe : probe question column s
              = ((probe question column s).1, (probe question column s).2) := rfl
          rw [← GuardRule.asks_iff] at hquestion
          rcases step_cases_of_question hquestion hprobe with ⟨u, hu⟩ | ⟨r, u, hu⟩
          · left
            use question, u
          · right
            use [question], r, u

/-! ### Rules in order -/

/-- Rules asked one after the other all pass; their questions are listed. -/
inductive Passing : Signalled σ → List GuardRule → List Statement → Signalled σ → Prop where
  | nil {s : Signalled σ} : Passing s [] [] s
  | cons {s t u : Signalled σ} {rule : GuardRule} {rules : List GuardRule} {question : Statement}
      {questions : List Statement} (hrule : Passes probe column params s rule question t)
      (hrules : Passing t rules questions u) :
      Passing s (rule :: rules) (question :: questions) u

variable {probe column params}

theorem askRules_cons (rule : GuardRule) (rules : List GuardRule) :
  askRules probe column params (rule :: rules)
    = (step probe column params rule >>= fun d => match d with
      | some d => pure d
      | none => askRules probe column params rules)
  := by
  rw [step, bind_assoc]
  rfl

theorem runWith_step_of_passes {s t : Signalled σ} {rule : GuardRule} {question : Statement}
    (h : Passes probe column params s rule question t) :
  (step probe column params rule).runWith s.fired s.state = (.ok none, t)
  := by
  obtain ⟨hquestion, hprobe, hfiring, htrue⟩ := h
  have hrun := runWith_step_of_verdict hquestion hprobe (if_neg hfiring)
  rw [ProbeOutcome.verdict_of_truth? column htrue] at hrun
  apply hrun

/-- If all rules pass, the deletion is allowed. -/
theorem runWith_askRules_of_passing {s t : Signalled σ} {rules : List GuardRule}
    {questions : List Statement} (h : Passing probe column params s rules questions t) :
  (askRules probe column params rules).runWith s.fired s.state = (.ok .allowed, t)
  := by
  induction h with
  | nil => rfl
  | cons hrule _ ih =>
      rw [askRules_cons, Task.runWith_bind_ok (runWith_step_of_passes hrule)]
      apply ih

variable (probe column params) in
/-- Rules that are asked all pass, or some of them pass and the next one stops the evaluation. -/
theorem askRules_cases (rules : List GuardRule) (s : Signalled σ) :
  (∃ questions t, Passing probe column params s rules questions t
      ∧ (askRules probe column params rules).runWith s.fired s.state = (.ok .allowed, t))
    ∨ ∃ before rule after questions t put r u, rules = before ++ rule :: after
      ∧ Passing probe column params s before questions t
      ∧ Stops probe column params t rule put r u
      ∧ (askRules probe column params rules).runWith s.fired s.state = (r, u)
  := by
  induction rules generalizing s with
  | nil =>
      left
      use [], s, .nil
      rfl
  | cons rule rules ih =>
      rw [askRules_cons]
      rcases step_cases probe column params rule s with
        ⟨question, t, hpasses, hrun⟩ | ⟨put, r, u, hstops, hrun⟩
      · rw [Task.runWith_bind_ok hrun]
        rcases ih t with ⟨questions, u, hpassing, hrest⟩
          | ⟨before, last, after, questions, u, put, r, w, rfl, hpassing, hstops, hrest⟩
        · left
          use question :: questions, u, .cons hpasses hpassing, hrest
        · right
          use rule :: before, last, after, question :: questions, u, put, r, w, rfl
          use .cons hpasses hpassing, hstops, hrest
      · right
        use [], rule, rules, [], s, put, r, u, rfl, .nil, hstops
        cases r with
        | error e => apply Task.runWith_bind_error hrun
        | ok d => apply Task.runWith_bind_ok hrun

end Guard

end BoundSql
