import BoundSql.Proofs.Guard.Evaluation
import BoundSql.Proofs.Guard.Marker
import BoundSql.Proofs.ParameterBag

/-!
# Questions

The question of a rule is its predicate, with a numbered placeholder for every
marker and everything else kept, and a list of values. The numbers count the
names of the markers, and the value at the number of a marker is that of its
name in the bag. Entries of the bag that no marker names make no difference.
-/

namespace BoundSql

open BoundSql.Text

/-- A statement binds the markers of a predicate to values from a bag, by their numbers. What is no
marker is kept. The names that differ by more than letter case are numbered from one on in the order
of their first occurrences, one for each value, and the value at the number of a name is the one
that the bag has for it. -/
structure Predicate.Binds (predicate : String) (params : ParameterBag) (statement : Statement)
    (number : String → Nat) : Prop where
  text : statement.sql.toList
    = (Marker.lexemes predicate.toList).flatMap (Marker.substituted number)
  kept : (Marker.lexemes predicate.toList).flatMap Lexeme.chars = predicate.toList
  ordered : ((Marker.occurring predicate).eraseDupsBy sameName).map number
    = List.range' 1 statement.params.length
  shared : ∀ name ∈ Marker.occurring predicate, ∀ name' ∈ Marker.occurring predicate,
    (number name = number name' ↔ sameName name name' = true)
  positive : ∀ name ∈ Marker.occurring predicate, 1 ≤ number name
  bounded : ∀ name ∈ Marker.occurring predicate, number name ≤ statement.params.length
  referenced : ∀ k, 1 ≤ k → k ≤ statement.params.length →
    ∃ name ∈ Marker.occurring predicate, number name = k
  value : ∀ name ∈ Marker.occurring predicate, ∃ j, params.get? name = some j
    ∧ statement.params[number name - 1]? = some (Value.ofJson j)

namespace GuardRule

/-- The question of a rule binds the markers of its predicate. -/
theorem binds_of_question {rule : GuardRule} {params : ParameterBag} {statement : Statement}
    (h : rule.question params = .ok statement) :
  Predicate.Binds rule.predicate params statement (Marker.number (Marker.names rule.predicate))
  := by
  obtain ⟨_, hknown, rfl⟩ := (rule.question_eq_ok_iff params statement).mp h
  constructor
  · apply Marker.toList_withPlaceholders
  · apply Marker.flatMap_chars_lexemes
  · rw [← Marker.names_eq, List.length_map, (Marker.distinct_names rule.predicate).map_number]
  · intro name hname name' hname'
    apply Marker.number_eq_iff hname hname'
  · intro name _
    apply Nat.succ_pos
  · intro name hname
    rw [List.length_map]
    apply (Marker.names_number hname).1
  · intro k hpos hk
    rw [List.length_map] at hk
    apply Marker.exists_number hpos hk
  · intro name hname
    obtain ⟨_, known, hnumber, hsame⟩ := Marker.names_number hname
    have hvalue := hknown known (List.mem_of_getElem? hnumber)
    rw [ParameterBag.contains, params.get?_congr hsame, Option.isSome_iff_exists] at hvalue
    obtain ⟨j, hj⟩ := hvalue
    use j, hj
    rw [List.getElem?_map, hnumber, Option.map_some, params.get?_congr hsame, hj]
    rfl

/-- A bag that has values for all markers of an accepted predicate can be asked with. -/
theorem exists_question {rule : GuardRule} {params : ParameterBag}
    (haccepted : Predicate.fault? rule.predicate = none)
    (hknown : ∀ name ∈ Marker.occurring rule.predicate, params.contains name = true) :
  ∃ statement, rule.question params = .ok statement
  := by
  have hnames : ∀ name ∈ Marker.names rule.predicate, params.contains name = true := by
    intro name hname
    apply hknown name (Marker.occurring_of_mem_names hname)
  apply Exists.intro
  apply (rule.question_eq_ok_iff params _).mpr ⟨haccepted, hnames, rfl⟩

/-- The question depends only on the entries that the markers name. -/
theorem question_eq_of_addressed {rule : GuardRule} {params params' : ParameterBag}
    (h : params'.addressed (Marker.occurring rule.predicate)
      = params.addressed (Marker.occurring rule.predicate)) :
  rule.question params' = rule.question params
  := by
  have hvalue : ∀ name ∈ Marker.names rule.predicate, params'.get? name = params.get? name := by
    intro name hname
    apply ParameterBag.get?_eq_of_addressed h (Marker.occurring_of_mem_names hname)
  have hmissing : (Marker.names rule.predicate).filter (!params'.contains ·)
      = (Marker.names rule.predicate).filter (!params.contains ·) := by
    apply List.filter_congr
    intro name hname
    rw [ParameterBag.contains, ParameterBag.contains, hvalue name hname]
  have hvalues : (Marker.names rule.predicate).map
        (fun n => ((params'.get? n).map Value.ofJson).getD .null)
      = (Marker.names rule.predicate).map
        (fun n => ((params.get? n).map Value.ofJson).getD .null) := by
    apply List.map_congr_left
    intro name hname
    rw [hvalue name hname]
  simp only [question, hmissing, hvalues]

end GuardRule

namespace Guard

variable {σ : Type} (reply : Statement → String → σ → ProbeOutcome × σ) (column : String)
  {params : ParameterBag} {rule : GuardRule} {question : Statement}

/-- A rule that is asked hands its question to the probe, and nothing else. -/
theorem askRule_transcript (h : rule.question params = .ok question) (s : σ) :
  ((askRule (transcribed reply) column params rule).runWith false (s, [])).2.state.2
    = [(question, column)]
  := by
  have hprobe : transcribed reply question column (s, [])
      = (⟨.ok (reply question column s).1, .never⟩,
        ((reply question column s).2, [(question, column)])) := rfl
  have hstep := runWith_step_of_verdict ((rule.asks_iff params question).mpr h) hprobe rfl
  rw [step, Task.runWith_bind_ok (Task.runWith_check _)] at hstep
  rw [hstep]

end Guard

namespace GuardRule

/-- An accepted predicate is asked with a numbered placeholder for every marker and with the values
of the markers, whatever else is in the bag. -/
theorem question_binds (rule : GuardRule) (params : ParameterBag)
    (haccepted : Predicate.fault? rule.predicate = none)
    (hknown : ∀ name ∈ Marker.occurring rule.predicate, params.contains name = true) :
  ∃ statement number, Predicate.Binds rule.predicate params statement number
    ∧ (∀ (σ : Type) (reply : Statement → String → σ → ProbeOutcome × σ) (column : String) (s : σ),
      ((Guard.askRule (Guard.transcribed reply) column params rule).runWith false (s, [])).2.state.2
        = [(statement, column)])
    ∧ ∀ params' : ParameterBag, params'.addressed (Marker.occurring rule.predicate)
        = params.addressed (Marker.occurring rule.predicate) →
      rule.question params' = .ok statement
  := by
  obtain ⟨statement, hquestion⟩ := exists_question haccepted hknown
  use statement, Marker.number (Marker.names rule.predicate), binds_of_question hquestion
  constructor
  · intro σ reply column s
    apply Guard.askRule_transcript reply column hquestion
  · intro params' hsame
    rw [question_eq_of_addressed hsame, hquestion]

/-- A marker that is repeated in another letter case has one value. -/
theorem question_binds_repeated :
  Predicate.fault? "SELECT @id > 0 OR @ID = @x" = none
    ∧ ∃ statement number, statement.params.length = 2
      ∧ number "id" = 1 ∧ number "ID" = 1 ∧ number "x" = 2
      ∧ Predicate.Binds "SELECT @id > 0 OR @ID = @x"
        (.ofPairs [("@Id", .bool true), ("X", .null), ("y", .null)]) statement number
  := by
  have haccepted : Predicate.fault? "SELECT @id > 0 OR @ID = @x" = none := by
    decide +kernel
  have hoccurring : Marker.occurring "SELECT @id > 0 OR @ID = @x" = ["id", "ID", "x"] := by
    decide +kernel
  have hknown : ∀ name ∈ Marker.occurring "SELECT @id > 0 OR @ID = @x", (ParameterBag.ofPairs
      [("@Id", .bool true), ("X", .null), ("y", .null)]).contains name = true := by
    decide +kernel
  obtain ⟨statement, number, hbinds, _⟩ :=
    question_binds ⟨1, "task", "known", "SELECT @id > 0 OR @ID = @x", true, 0⟩ _ haccepted hknown
  have hshared := hbinds.shared "id" (by simp [hoccurring]) "ID" (by simp [hoccurring])
  have hfirst : ["id", "ID", "x"].eraseDupsBy sameName = ["id", "x"] := by decide +kernel
  have hordered := hbinds.ordered
  rw [hoccurring, hfirst] at hordered
  have hlength : statement.params.length = 2 := by
    simpa using (congrArg List.length hordered).symm
  rw [hlength] at hordered
  obtain ⟨hid, hx⟩ : number "id" = 1 ∧ number "x" = 2 := by
    simpa [List.range'] using hordered
  use haccepted, statement, number, hlength, hid, by rw [← hid, hshared.mpr (by decide)], hx

end GuardRule

end BoundSql
