import BoundSql.Proofs.Guard.Asking
import Mathlib.Data.List.Nodup

/-!
# Evaluations

An evaluation asks the enabled rules by order and number until one of them does
not pass. With a probe that answers every question, all rules pass and the
deletion is allowed, or the first rule that does not pass decides: its question
cannot be put, or the answer refuses the deletion. Rules with different places
are asked in one order, in whatever order they are given.
-/

namespace BoundSql

/-! ### The order of rules -/

namespace GuardRule

/-- The place of a rule among the others. -/
def place (r : GuardRule) : Int32 × Int64 :=
  (r.order, r.id)

/-- The place of a rule comes no later than that of another. -/
def PlaceLe (r s : GuardRule) : Prop :=
  r.order < s.order ∨ r.order = s.order ∧ r.id ≤ s.id

theorem precedes_iff (r s : GuardRule) :
  r.precedes s = true ↔ r.PlaceLe s
  := by
  simp [precedes, PlaceLe]

theorem PlaceLe.trans {r s t : GuardRule} (hrs : r.PlaceLe s) (hst : s.PlaceLe t) :
  r.PlaceLe t
  := by
  simp only [PlaceLe, Int32.lt_iff_toInt_lt, ← Int32.toInt_inj, Int64.le_iff_toInt_le] at *
  omega

theorem PlaceLe.total (r s : GuardRule) :
  r.PlaceLe s ∨ s.PlaceLe r
  := by
  simp only [PlaceLe, Int32.lt_iff_toInt_lt, ← Int32.toInt_inj, Int64.le_iff_toInt_le]
  omega

theorem PlaceLe.antisymm {r s : GuardRule} (hrs : r.PlaceLe s) (hsr : s.PlaceLe r) :
  r.place = s.place
  := by
  simp only [place, Prod.mk.injEq]
  simp only [PlaceLe, Int32.lt_iff_toInt_lt, ← Int32.toInt_inj, ← Int64.toInt_inj,
    Int64.le_iff_toInt_le] at *
  omega

theorem PlaceLe.refl (r : GuardRule) :
  r.PlaceLe r
  := by
  simp [PlaceLe]

theorem precedes_trans (r s t : GuardRule) (hrs : r.precedes s = true)
    (hst : s.precedes t = true) :
  r.precedes t = true
  := by
  rw [precedes_iff] at *
  apply hrs.trans hst

theorem precedes_total (r s : GuardRule) :
  (r.precedes s || s.precedes r) = true
  := by
  rw [Bool.or_eq_true, precedes_iff, precedes_iff]
  apply PlaceLe.total

/-- Rules are the enabled ones of a list by place; those that share a place stay as they are in the
list. -/
structure Ordered (rules ordered : List GuardRule) : Prop where
  perm : ordered.Perm (rules.filter (·.enabled))
  sorted : ordered.Pairwise PlaceLe
  stable : ∀ p, ordered.filter (·.place = p) = (rules.filter (·.enabled)).filter (·.place = p)

/-- The rules that share a place stay as they are when rules are sorted. -/
theorem filter_mergeSort (rules : List GuardRule) (p : Int32 × Int64) :
  (rules.mergeSort precedes).filter (·.place = p) = rules.filter (·.place = p)
  := by
  have hplace : (rules.filter (·.place = p)).Pairwise fun r s => r.precedes s = true := by
    rw [List.pairwise_filter]
    apply List.pairwise_of_forall
    intro r s hr hs
    have hrs := (of_decide_eq_true hr).trans (of_decide_eq_true hs).symm
    simp only [place, Prod.mk.injEq] at hrs
    simp [precedes_iff, PlaceLe, hrs]
  have hsublist : (rules.filter (·.place = p)).Sublist (rules.mergeSort precedes) := by
    apply List.sublist_mergeSort precedes_trans precedes_total hplace
    apply List.filter_sublist
  have hkept := hsublist.filter (·.place = p)
  simp only [List.filter_filter, Bool.and_self] at hkept
  symm
  apply hkept.eq_of_length
  apply ((List.mergeSort_perm rules precedes).filter _).length_eq.symm

theorem ordered_asked (rules : List GuardRule) :
  Ordered rules (asked rules)
  where
  perm := List.mergeSort_perm _ _
  sorted := by
    apply (List.pairwise_mergeSort precedes_trans precedes_total _).imp
    intro r s
    apply (precedes_iff r s).mp
  stable := filter_mergeSort _

/-- Of two sorted lists with the same rules at each place, the first rules are the same. -/
theorem head_eq_of_filter {r s : GuardRule} {rules rules' : List GuardRule}
    (h : (r :: rules).Pairwise PlaceLe) (h' : (s :: rules').Pairwise PlaceLe)
    (hfilter : ∀ p, (r :: rules).filter (·.place = p) = (s :: rules').filter (·.place = p)) :
  r = s
  := by
  have hmem : ∀ t, t ∈ r :: rules ↔ t ∈ s :: rules' := by
    intro t
    have ht := congrArg (t ∈ ·) (hfilter t.place)
    simpa using ht
  have hplace : r.place = s.place := by
    apply PlaceLe.antisymm
    · rcases List.mem_cons.mp ((hmem s).mpr List.mem_cons_self) with rfl | hs
      · apply PlaceLe.refl
      · apply List.rel_of_pairwise_cons h hs
    · rcases List.mem_cons.mp ((hmem r).mp List.mem_cons_self) with rfl | hr
      · apply PlaceLe.refl
      · apply List.rel_of_pairwise_cons h' hr
  have hhead := hfilter r.place
  rw [List.filter_cons_of_pos (by simp), List.filter_cons_of_pos (by simp [hplace])] at hhead
  apply (List.cons.inj hhead).1

/-- A sorted list of rules is determined by its rules at each place. -/
theorem eq_of_filter {rules rules' : List GuardRule} (h : rules.Pairwise PlaceLe)
    (h' : rules'.Pairwise PlaceLe)
    (hfilter : ∀ p, rules.filter (·.place = p) = rules'.filter (·.place = p)) :
  rules = rules'
  := by
  induction rules generalizing rules' with
  | nil =>
      cases rules' with
      | nil => rfl
      | cons s _ => simpa using hfilter s.place
  | cons r rules ih =>
      cases rules' with
      | nil => simpa using hfilter r.place
      | cons s rules' =>
          obtain rfl := head_eq_of_filter h h' hfilter
          congr 1
          apply ih h.of_cons h'.of_cons
          intro p
          have hp := hfilter p
          simp only [List.filter_cons] at hp
          split at hp
          · apply (List.cons.inj hp).2
          · apply hp

/-- The rules that are asked are the only ones in their order. -/
theorem Ordered.eq_asked {rules ordered : List GuardRule} (h : Ordered rules ordered) :
  ordered = asked rules
  := by
  apply eq_of_filter h.sorted (ordered_asked rules).sorted
  intro p
  rw [h.stable, (ordered_asked rules).stable]

/-- A rule is asked exactly when it is given and enabled. -/
theorem mem_asked_iff (rules : List GuardRule) (r : GuardRule) :
  r ∈ asked rules ↔ r ∈ rules ∧ r.enabled = true
  := by
  rw [(ordered_asked rules).perm.mem_iff, List.mem_filter]

/-- Some rule is asked exactly when some rule is enabled. -/
theorem asked_ne_nil_iff (rules : List GuardRule) :
  asked rules ≠ [] ↔ ∃ rule ∈ rules, rule.enabled = true
  := by
  simp [List.eq_nil_iff_forall_not_mem, mem_asked_iff]

/-- Rules with different places are asked in one order. -/
theorem asked_eq_of_perm {rules rules' : List GuardRule} (hperm : rules'.Perm rules)
    (hplaces : ((rules.filter (·.enabled)).map place).Nodup) :
  asked rules' = asked rules
  := by
  have hasked : (asked rules').Perm (asked rules) := by
    apply (ordered_asked rules').perm.trans
    apply (hperm.filter _).trans
    apply (ordered_asked rules).perm.symm
  apply List.Perm.eq_of_pairwise _ (ordered_asked rules').sorted (ordered_asked rules).sorted hasked
  intro r s hr hs hrs hsr
  apply List.inj_on_of_nodup_map hplaces
  · apply (ordered_asked rules).perm.mem_iff.mp (hasked.mem_iff.mp hr)
  · apply (ordered_asked rules).perm.mem_iff.mp hs
  · apply hrs.antisymm hsr

end GuardRule

namespace Guard

variable {σ : Type} (reply : Statement → String → σ → ProbeOutcome × σ) (column : String)
  (params : ParameterBag)

/-! ### Transcripts -/

/-- What a probe was asked, in order: the questions, each with the column that answers. -/
abbrev Transcript := List (Statement × String)

/-- The probe that replies to every question at once and keeps the transcript. -/
def transcribed : Probe (σ × Transcript) := fun question column s =>
  (⟨.ok (reply question column s.1).1, .never⟩,
    (reply question column s.1).2, s.2 ++ [(question, column)])

/-- The entries of a transcript for questions that share their column. -/
def entries (questions : List Statement) : Transcript :=
  questions.map fun question => (question, column)

/-- The first rule that does not pass decides: its question cannot be put, and the transcript lists
the questions of the rules before it, or its question comes last in the transcript and the answer
refuses the deletion. -/
def StoppedAt (s : σ) (ordered : List GuardRule) (decision : Decision)
    (transcript : Transcript) : Prop :=
  ∃ before rule after questions t, ordered = before ++ rule :: after
    ∧ Passing (transcribed reply) column params ⟨false, s, []⟩ before questions t
    ∧ ((∃ fault, rule.Unaskable params fault
          ∧ transcript = entries column questions ∧ decision = .invalid rule.name fault)
      ∨ ∃ question, rule.Asks params question
          ∧ (reply question column t.state.1).1.Refuses rule.name column decision
          ∧ transcript = entries column (questions ++ [question]))

variable {reply column params}

/-- A probe that replies gives its reply and nothing else. -/
theorem transcribed_eq_iff {question : Statement} {s t : σ × Transcript}
    {answer : Except Error ProbeOutcome} {firing : Firing} :
  transcribed reply question column s = (⟨answer, firing⟩, t)
    ↔ answer = .ok (reply question column s.1).1 ∧ firing = .never
      ∧ t = ((reply question column s.1).2, s.2 ++ [(question, column)])
  := by
  rw [transcribed, Prod.mk.injEq, Awaited.mk.injEq, and_assoc, eq_comm, eq_comm (a := Firing.never),
    eq_comm (b := t)]

/-- Rules that pass add their questions to the transcript and leave the signal alone. -/
theorem Passing.transcript {s t : Signalled (σ × Transcript)} {rules : List GuardRule}
    {questions : List Statement}
    (h : Passing (transcribed reply) column params s rules questions t) (hs : s.fired = false) :
  t.fired = false ∧ t.state.2 = s.state.2 ++ entries column questions
  := by
  induction h with
  | nil => simp [hs, entries]
  | cons hrule _ ih =>
      obtain ⟨_, hprobe, _, _⟩ := hrule
      obtain ⟨_, rfl, rfl⟩ := transcribed_eq_iff.mp hprobe
      obtain ⟨hfired, htranscript⟩ := ih rfl
      use hfired
      rw [htranscript]
      simp [entries]

/-- With a probe that replies, only an unaskable rule or an answer stops the evaluation. -/
theorem Stops.transcript {s t : Signalled (σ × Transcript)} {rule : GuardRule}
    {put : List Statement} {r : Except Error Decision}
    (h : Stops (transcribed reply) column params s rule put r t) (hs : s.fired = false) :
  (∃ fault, rule.Unaskable params fault ∧ t.state.2 = s.state.2
      ∧ r = .ok (.invalid rule.name fault))
    ∨ ∃ question d, rule.Asks params question
      ∧ (reply question column s.state.1).1.Refuses rule.name column d
      ∧ t.state.2 = s.state.2 ++ entries column [question] ∧ r = .ok d
  := by
  cases h with
  | fired => contradiction
  | @unaskable _ fault _ hfault =>
      left
      use fault, hfault
  | interrupted _ hprobe =>
      obtain ⟨_, hfiring, _⟩ := transcribed_eq_iff.mp hprobe
      contradiction
  | failed _ hprobe _ =>
      obtain ⟨hanswer, _, _⟩ := transcribed_eq_iff.mp hprobe
      contradiction
  | @refused _ question o _ d _ _ hquestion hprobe _ hrefuses =>
      obtain ⟨ho, _, rfl⟩ := transcribed_eq_iff.mp hprobe
      obtain rfl := Except.ok.inj ho
      right
      use question, d, hquestion, hrefuses
      simp [entries]

/-! ### Evaluations -/

/-- An evaluation asks the rules in order, if there are some. -/
theorem runWith_evaluate (probe : Probe σ) (column : String) (rules : List GuardRule)
    (params : ParameterBag) (s : σ) :
  (evaluate probe column rules params).runWith false s
    = if GuardRule.asked rules = [] then (.ok .noRules, ⟨false, s⟩)
      else (askRules probe column params (GuardRule.asked rules)).runWith false s
  := by
  rw [evaluate, Task.runWith_bind_ok (Task.runWith_check s)]
  cases GuardRule.asked rules with
  | nil => rfl
  | cons rule rest => rfl

variable (reply column params) in
/-- Rules that are asked with a probe that replies all pass, or the first that does not decides. -/
theorem askRules_transcribed (rules : List GuardRule) (s : σ) :
  (∃ questions t, Passing (transcribed reply) column params ⟨false, s, []⟩ rules questions t
      ∧ (askRules (transcribed reply) column params rules).runWith false (s, [])
        = (.ok .allowed, t)
      ∧ t.state.2 = entries column questions)
    ∨ ∃ decision u, StoppedAt reply column params s rules decision u.state.2
      ∧ (askRules (transcribed reply) column params rules).runWith false (s, [])
        = (.ok decision, u)
  := by
  rcases askRules_cases (transcribed reply) column params rules ⟨false, s, []⟩ with
    ⟨questions, t, hpassing, hrun⟩
    | ⟨before, rule, after, questions, t, put, r, u, hrules, hpassing, hstops, hrun⟩
  · left
    use questions, t, hpassing, hrun
    simpa using (hpassing.transcript rfl).2
  · right
    obtain ⟨hfired, htranscript⟩ := hpassing.transcript rfl
    rcases hstops.transcript hfired with ⟨fault, hfault, hu, rfl⟩ |
      ⟨question, d, hquestion, hrefuses, hu, rfl⟩
    · use .invalid rule.name fault, u
      constructor
      · use before, rule, after, questions, t, hrules, hpassing
        left
        use fault, hfault
        simp [hu, htranscript]
      · apply hrun
    · use d, u
      constructor
      · use before, rule, after, questions, t, hrules, hpassing
        right
        use question, hquestion, hrefuses
        simp [hu, htranscript, entries]
      · apply hrun

/-- Two runs of rules that pass list the same questions and end alike. -/
theorem Passing.unique {probe : Probe σ} {s t u : Signalled σ} {rules : List GuardRule}
    {questions questions' : List Statement} (h : Passing probe column params s rules questions t)
    (h' : Passing probe column params s rules questions' u) :
  questions' = questions ∧ u = t
  := by
  induction h generalizing questions' u with
  | nil =>
      cases h'
      simp
  | cons hrule _ ih =>
      obtain ⟨hquestion, hprobe, _, _⟩ := hrule
      rcases h' with _ | ⟨⟨hquestion', hprobe', _, _⟩, hrest⟩
      obtain rfl := hquestion.unique hquestion'
      have hanswer := hprobe.symm.trans hprobe'
      simp only [Prod.mk.injEq, Awaited.mk.injEq] at hanswer
      obtain ⟨⟨_, rfl⟩, rfl⟩ := hanswer
      obtain ⟨rfl, rfl⟩ := ih hrest
      simp

theorem StoppedAt.ne {s : σ} {ordered : List GuardRule} {decision : Decision}
    {transcript : Transcript}
    (h : StoppedAt reply column params s ordered decision transcript) :
  decision ≠ .allowed ∧ decision ≠ .noRules
  := by
  obtain ⟨_, _, _, _, _, _, _, ⟨_, _, _, rfl⟩ | ⟨_, _, hrefuses, _⟩⟩ := h
  · simp
  · apply hrefuses.ne

variable (reply column params) in
/-- An evaluation with a probe that replies, from an empty transcript. -/
def rehearse (rules : List GuardRule) (s : σ) :
    Except Error Decision × Signalled (σ × Transcript) :=
  (evaluate (transcribed reply) column rules params).runWith false (s, [])

variable (reply column params) in
/-- A run settles ordered rules. Without rules no question is put. If all rules pass, their
questions are put and the deletion is allowed. Otherwise the first rule that does not pass
decides. -/
structure Settles (s : σ) (ordered : List GuardRule)
    (run : Except Error Decision × Signalled (σ × Transcript)) : Prop where
  noRules : run.1 = .ok .noRules ↔ ordered = []
  silent : run.1 = .ok .noRules → run.2.state = (s, [])
  allowed : run.1 = .ok .allowed ↔ ordered ≠ []
    ∧ ∃ questions t, Passing (transcribed reply) column params ⟨false, s, []⟩ ordered questions t
  asked : ∀ questions t,
    Passing (transcribed reply) column params ⟨false, s, []⟩ ordered questions t →
    run.2.state.2 = entries column questions
  stopped : run.1 ≠ .ok .noRules → run.1 ≠ .ok .allowed → ∃ decision, run.1 = .ok decision
    ∧ StoppedAt reply column params s ordered decision run.2.state.2

theorem settles_noRules (s : σ) :
  Settles reply column params s [] (.ok .noRules, ⟨false, s, []⟩)
  := by
  constructor
  · simp
  · simp
  · simp
  · intro questions t hpassing
    cases hpassing
    rfl
  · simp

theorem settles_of_passing {s : σ} {ordered : List GuardRule} {questions : List Statement}
    {t : Signalled (σ × Transcript)} (hordered : ordered ≠ [])
    (hpassing : Passing (transcribed reply) column params ⟨false, s, []⟩ ordered questions t)
    (ht : t.state.2 = entries column questions) :
  Settles reply column params s ordered (.ok .allowed, t)
  := by
  constructor
  · simp [hordered]
  · simp
  · simp only [ne_eq, hordered, not_false_eq_true, true_and, true_iff]
    use questions, t
  · intro questions' t' hpassing'
    obtain ⟨rfl, rfl⟩ := hpassing.unique hpassing'
    apply ht
  · simp

theorem settles_of_stoppedAt {s : σ} {ordered : List GuardRule} {decision : Decision}
    {u : Signalled (σ × Transcript)} (hordered : ordered ≠ [])
    (hstopped : StoppedAt reply column params s ordered decision u.state.2)
    (hrun : (askRules (transcribed reply) column params ordered).runWith false (s, [])
      = (.ok decision, u)) :
  Settles reply column params s ordered (.ok decision, u)
  := by
  obtain ⟨hallowed, hnoRules⟩ := hstopped.ne
  have hnot : ∀ questions t,
      ¬ Passing (transcribed reply) column params ⟨false, s, []⟩ ordered questions t := by
    intro questions t hpassing
    have hpassed := runWith_askRules_of_passing hpassing
    rw [hrun] at hpassed
    simp [hallowed] at hpassed
  constructor
  · simp [hordered, hnoRules]
  · simp [hnoRules]
  · simp [hnot, hallowed]
  · intro questions t hpassing
    cases hnot questions t hpassing
  · intro _ _
    use decision, rfl

variable (reply column params) in
/-- An evaluation settles the rules that are asked. -/
theorem settles_rehearse (rules : List GuardRule) (s : σ) :
  Settles reply column params s (GuardRule.asked rules) (rehearse reply column params rules s)
  := by
  rw [rehearse, runWith_evaluate]
  split
  · next hasked =>
      rw [hasked]
      apply settles_noRules
  · next hasked =>
      rcases askRules_transcribed reply column params (GuardRule.asked rules) s with
        ⟨questions, t, hpassing, hrun, ht⟩ | ⟨decision, u, hstopped, hrun⟩
      · rw [hrun]
        apply settles_of_passing hasked hpassing ht
      · rw [hrun]
        apply settles_of_stoppedAt hasked hstopped hrun

variable (reply column params) in
/-- An evaluation settles the enabled rules by place. The order in which rules with different
places are given makes no difference. -/
theorem rehearse_ordered (rules : List GuardRule) (s : σ) :
  (∃ ordered, GuardRule.Ordered rules ordered
      ∧ Settles reply column params s ordered (rehearse reply column params rules s))
    ∧ (((rules.filter (·.enabled)).map GuardRule.place).Nodup → ∀ rules' : List GuardRule,
      rules'.Perm rules →
      rehearse reply column params rules' s = rehearse reply column params rules s)
  := by
  constructor
  · use GuardRule.asked rules, GuardRule.ordered_asked rules
    apply settles_rehearse
  · intro hplaces rules' hperm
    simp only [rehearse, runWith_evaluate, GuardRule.asked_eq_of_perm hperm hplaces]

/-- A rule that is not enabled, and rules that are asked one after the other; the last has a
predicate that is refused. -/
def oneAfterTheOther : List GuardRule :=
  [⟨0, "task", "idle", "SELECT 0", false, -2⟩, ⟨1, "task", "first", "SELECT 1", true, -1⟩,
    ⟨2, "task", "next", "SELECT @x", true, -1⟩, ⟨3, "task", "last", "DROP TABLE task", true, 0⟩]

/-- A probe that counts its questions, and answers whether they are without parameters. -/
def countingReply (question : Statement) (_column : String) (n : Nat) : ProbeOutcome × Nat :=
  (.value (.bool question.params.isEmpty), n + 1)

/-- In whatever order the rules are given, the rule that is not enabled is not asked. With a value
the next rule says no; without one it cannot be asked. Without the next rule the last one decides,
whose predicate is refused. -/
theorem rehearse_oneAfterTheOther :
  let run := rehearse countingReply "allowed"
  let given := ParameterBag.empty.insert "X" .null
  let withoutNext := oneAfterTheOther.filter (·.name ≠ "next")
  ((oneAfterTheOther.filter (·.enabled)).map GuardRule.place).Nodup
    ∧ oneAfterTheOther.reverse.Perm oneAfterTheOther
    ∧ run given oneAfterTheOther.reverse 0 = run given oneAfterTheOther 0
    ∧ (run given oneAfterTheOther 0).1.toOption = some (.blocked "next")
    ∧ (run given oneAfterTheOther 0).2.state.1 = 2
    ∧ (run .empty oneAfterTheOther 0).1.toOption
      = some (.invalid "next" (.missingParameters ["x"]))
    ∧ (run .empty oneAfterTheOther 0).2.state.1 = 1
    ∧ (run given withoutNext 0).1.toOption = some (.invalid "last" .notSelect)
    ∧ (run given withoutNext 0).2.state.1 = 1
  := by
  intro run given withoutNext
  have hplaces : ((oneAfterTheOther.filter (·.enabled)).map GuardRule.place).Nodup := by decide
  have hperm : oneAfterTheOther.reverse.Perm oneAfterTheOther := oneAfterTheOther.reverse_perm
  have hasked : GuardRule.asked oneAfterTheOther = oneAfterTheOther.tail :=
    List.mergeSort_of_pairwise (by decide)
  have hwithoutNext : GuardRule.asked withoutNext = withoutNext.tail :=
    List.mergeSort_of_pairwise (by decide)
  use hplaces, hperm, (rehearse_ordered countingReply "allowed" given oneAfterTheOther 0).2 hplaces
    _ hperm
  simp only [run, rehearse, runWith_evaluate, hasked, hwithoutNext]
  decide +kernel

end Guard

end BoundSql
