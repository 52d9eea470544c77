import BoundSql.Guard.Predicate
import Mathlib.Tactic.Use

/-!
# Where a statement begins

The statement of a predicate begins behind blanks, comments and opening
parentheses. `statementStart` ends a block comment at the first end mark,
`lexicalStart` where its lexeme ends, in which comments nest. A comment is flat
when the first mark behind its opening is an end mark that does not share the
asterisk of the opening; the two rules agree on flat comments, and every other
comment goes on as a lexeme behind its first end mark.
-/

namespace BoundSql.Predicate

open BoundSql.Text

/-! ### The end of a comment -/

/-- Whether the first mark in a text ends a comment; a text without marks counts as well. -/
def endsFirst : List Char → Bool
  | '*' :: '/' :: _ => true
  | '/' :: '*' :: _ => false
  | _ :: r => endsFirst r
  | [] => true

/-- Whether a comment, given by the text behind its opening, is flat. -/
def isFlat (r : List Char) : Bool :=
  r.head? != some '/' && endsFirst r

theorem splitLine_eq_afterLine (cs : List Char) :
  (Marker.splitLine cs).2 = afterLine cs
  := by
  induction cs with
  | nil => rfl
  | cons c r ih =>
      by_cases hc : c = '\n'
      · simp [Marker.splitLine, afterLine, hc]
      · simpa [Marker.splitLine, Marker.onto, afterLine, hc] using ih

/-- A comment takes at least one character of a text that has any. -/
theorem length_splitComment_lt (depth : Nat) {cs : List Char} (hcs : cs ≠ []) :
  (Marker.splitComment depth cs).2.length < cs.length
  := by
  have htaken : (Marker.splitComment depth cs).1 ≠ [] := by
    fun_cases Marker.splitComment depth cs <;> simp_all [Marker.onto]
  have h := congrArg List.length (Marker.divides_splitComment depth cs)
  have := List.length_pos_iff.mpr htaken
  rw [List.length_append] at h
  omega

theorem length_splitComment_le (depth : Nat) (cs : List Char) :
  (Marker.splitComment depth cs).2.length ≤ cs.length
  := by
  cases cs with
  | nil => apply Nat.le_refl
  | cons c r =>
      apply Nat.le_of_lt
      apply length_splitComment_lt depth (List.cons_ne_nil c r)

/-- A comment whose text goes on with a slash takes another character behind it. -/
theorem length_splitComment_slash_lt (depth : Nat) {r : List Char} (hr : r ≠ []) :
  (Marker.splitComment depth ('/' :: r)).2.length < r.length
  := by
  cases r with
  | nil => contradiction
  | cons c r =>
      by_cases hc : c = '*'
      · subst hc
        have := length_splitComment_le (depth + 1) r
        simp only [Marker.splitComment, Marker.onto, List.length_cons]
        omega
      · have := length_splitComment_lt depth (List.cons_ne_nil c r)
        simpa [Marker.splitComment, Marker.onto, hc] using this

theorem afterComment_asterisk {r : List Char} (hr : r.head? ≠ some '/') :
  afterComment ('*' :: r) = afterComment r
  := by
  cases r with
  | nil => rfl
  | cons c r =>
      have hc : c ≠ '/' := by
        simpa using hr
      simp [afterComment, hc]

/-- A character that begins no mark stays inside the comment. -/
theorem splitComment_cons (depth : Nat) {c : Char} {r : List Char}
    (hend : ∀ r', c = '*' → r = '/' :: r' → False)
    (hopen : ∀ r', c = '/' → r = '*' :: r' → False) :
  (Marker.splitComment depth (c :: r)).2 = (Marker.splitComment depth r).2
  := by
  rw [Marker.splitComment]
  · rfl
  · apply hopen
  · rintro r' - hc hr
    apply hend r' hc hr
  · rintro - r' - hc hr
    apply hend r' hc hr

/-- Inside another comment, a comment goes on behind the first end mark. -/
theorem length_splitComment_nested_lt (depth : Nat) {cs : List Char} (h : afterComment cs ≠ []) :
  (Marker.splitComment (depth + 1) cs).2.length < (afterComment cs).length
  := by
  fun_induction afterComment cs generalizing depth with
  | case1 r => apply length_splitComment_lt depth h
  | case2 c r hend ih =>
      by_cases hopen : ∃ r', c = '/' ∧ r = '*' :: r'
      · obtain ⟨r, rfl, rfl⟩ := hopen
        by_cases hr : r.head? = some '/'
        · obtain ⟨r, rfl⟩ := List.head?_eq_some_iff.mp hr
          apply length_splitComment_slash_lt (depth + 2) h
        · have hnested := ih (depth + 1) h
          rw [splitComment_cons] at hnested
          · apply hnested
          · rintro r' - rfl
            apply hr rfl
          · rintro r' ⟨⟩
      · rw [splitComment_cons depth.succ hend]
        · apply ih depth h
        · intro r' hc hr
          apply hopen ⟨r', hc, hr⟩
  | case3 => contradiction

/-- The two rules agree on where a flat comment ends. -/
theorem splitComment_eq_afterComment {r : List Char} (h : isFlat r = true) :
  (Marker.splitComment 0 r).2 = afterComment ('*' :: r)
  := by
  simp only [isFlat, Bool.and_eq_true, bne_iff_ne] at h
  obtain ⟨hhead, hfirst⟩ := h
  rw [afterComment_asterisk hhead]
  clear hhead
  fun_induction endsFirst r with
  | case1 r => rfl
  | case2 r => contradiction
  | case3 c r hend hopen ih =>
      rw [splitComment_cons 0 hend hopen, afterComment]
      · apply ih hfirst
      · apply hend
  | case4 => rfl

/-- A comment that is not flat ends later as a lexeme than at its first end mark. -/
theorem length_splitComment_lt_afterComment {r : List Char} (h : isFlat r = false)
    (hcomment : afterComment ('*' :: r) ≠ []) :
  (Marker.splitComment 0 r).2.length < (afterComment ('*' :: r)).length
  := by
  by_cases hhead : r.head? = some '/'
  · obtain ⟨r, rfl⟩ := List.head?_eq_some_iff.mp hhead
    apply length_splitComment_slash_lt 0 hcomment
  · have hfirst : endsFirst r = false := by
      simpa [isFlat, hhead] using h
    rw [afterComment_asterisk hhead] at hcomment ⊢
    clear h hhead
    fun_induction endsFirst r with
    | case1 r => contradiction
    | case2 r =>
        by_cases hr : r.head? = some '/'
        · obtain ⟨r, rfl⟩ := List.head?_eq_some_iff.mp hr
          apply length_splitComment_slash_lt 1 hcomment
        · rw [afterComment, afterComment_asterisk hr] at hcomment ⊢
          · apply length_splitComment_nested_lt 0 hcomment
          · rintro r' ⟨⟩
          · rintro r' ⟨⟩
    | case3 c r hend hopen ih =>
        rw [splitComment_cons 0 hend hopen]
        rw [afterComment] at hcomment ⊢
        · apply ih hcomment hfirst
        · apply hend
        · apply hend
    | case4 => contradiction

/-! ### The two starts -/

/-- A text from where its statement begins when comments end as lexemes do: a line comment behind
its line, a block comment behind the end mark that closes it, comments inside it being closed
before. -/
def lexicalStart (cs : List Char) : List Char :=
  match _h : dropBlanks cs with
  | '-' :: '-' :: r => lexicalStart (Marker.splitLine r).2
  | '/' :: '*' :: r => lexicalStart (Marker.splitComment 0 r).2
  | '(' :: r => lexicalStart r
  | s => s
termination_by cs.length
decreasing_by
  all_goals
    have := dropBlanks_length_le cs
    rw [‹dropBlanks cs = _›] at this
    simp only [List.length_cons] at this
  · have := length_afterLine_le r
    rw [← splitLine_eq_afterLine] at this
    omega
  · have := length_splitComment_le 0 r
    omega
  · omega

/-- The first comment before the statement that is not flat, given by the text behind its
opening. -/
def nested? (cs : List Char) : Option (List Char) :=
  match _h : dropBlanks cs with
  | '-' :: '-' :: r => nested? (afterLine r)
  | '/' :: '*' :: r => if isFlat r then nested? (afterComment ('*' :: r)) else some r
  | '(' :: r => nested? r
  | _ => none
termination_by cs.length
decreasing_by
  all_goals
    have := dropBlanks_length_le cs
    rw [‹dropBlanks cs = _›] at this
    simp only [List.length_cons] at this
  · have := length_afterLine_le r
    omega
  · have := length_afterComment_le ('*' :: r)
    simp only [List.length_cons] at this
    omega
  · omega

/-! What is skipped first decides where both starts are looked for. -/

theorem starts_of_line {cs r : List Char} (h : dropBlanks cs = '-' :: '-' :: r) :
  lexicalStart cs = lexicalStart (afterLine r) ∧ statementStart cs = statementStart (afterLine r)
  := by
  rw [lexicalStart, statementStart, h]
  constructor
  · rw [← splitLine_eq_afterLine]
    rfl
  · rfl

theorem starts_of_comment {cs r : List Char} (h : dropBlanks cs = '/' :: '*' :: r) :
  lexicalStart cs = lexicalStart (Marker.splitComment 0 r).2
    ∧ statementStart cs = statementStart (afterComment ('*' :: r))
  := by
  rw [lexicalStart, statementStart, h]
  constructor
  · rfl
  · rfl

theorem starts_of_paren {cs r : List Char} (h : dropBlanks cs = '(' :: r) :
  lexicalStart cs = lexicalStart r ∧ statementStart cs = statementStart r
  := by
  rw [lexicalStart, statementStart, h]
  constructor
  · rfl
  · rfl

theorem starts_of_statement {cs : List Char} (hline : ∀ r, dropBlanks cs = '-' :: '-' :: r → False)
    (hcomment : ∀ r, dropBlanks cs = '/' :: '*' :: r → False)
    (hparen : ∀ r, dropBlanks cs = '(' :: r → False) :
  lexicalStart cs = dropBlanks cs ∧ statementStart cs = dropBlanks cs
  := by
  rw [lexicalStart, statementStart]
  constructor
  · split <;> simp_all
  · split <;> simp_all

/-- The two starts are the same when every comment before the statement is flat. -/
theorem lexicalStart_eq_statementStart {cs : List Char} (h : nested? cs = none) :
  lexicalStart cs = statementStart cs
  := by
  fun_induction nested? cs with
  | case1 cs r hcs ih =>
      obtain ⟨hl, hs⟩ := starts_of_line hcs
      rw [hl, hs, ih h]
  | case2 cs r hcs hflat ih =>
      obtain ⟨hl, hs⟩ := starts_of_comment hcs
      rw [hl, hs, splitComment_eq_afterComment hflat, ih h]
  | case3 => contradiction
  | case4 cs r hcs ih =>
      obtain ⟨hl, hs⟩ := starts_of_paren hcs
      rw [hl, hs, ih h]
  | case5 cs hline hcomment hparen =>
      obtain ⟨hl, hs⟩ := starts_of_statement hline hcomment hparen
      rw [hl, hs]

/-- Both starts are looked for behind the first comment that is not flat, each where its rule ends
the comment. -/
theorem starts_of_nested? {cs r : List Char} (h : nested? cs = some r) :
  isFlat r = false
    ∧ lexicalStart cs = lexicalStart (Marker.splitComment 0 r).2
    ∧ statementStart cs = statementStart (afterComment ('*' :: r))
  := by
  fun_induction nested? cs with
  | case1 cs r' hcs ih =>
      obtain ⟨hl, hs⟩ := starts_of_line hcs
      rw [hl, hs]
      apply ih h
  | case2 cs r' hcs hflat ih =>
      obtain ⟨hl, hs⟩ := starts_of_comment hcs
      rw [hl, hs, splitComment_eq_afterComment hflat]
      apply ih h
  | case3 cs r' hcs hflat =>
      obtain rfl := Option.some.inj h
      use Bool.eq_false_iff.mpr hflat
      apply starts_of_comment hcs
  | case4 cs r' hcs ih =>
      obtain ⟨hl, hs⟩ := starts_of_paren hcs
      rw [hl, hs]
      apply ih h
  | case5 => contradiction

/-! ### Accepted predicates -/

/-- The keyword that a predicate begins with. -/
abbrev selectWord : List Char := ['s', 'e', 'l', 'e', 'c', 't']

/-- The checks that an accepted predicate passes. -/
theorem fault?_eq_none_iff (sql : String) :
  fault? sql = none
    ↔ statementStart sql.toList ≠ [] ∧ beginsWith selectWord (statementStart sql.toList) = true
      ∧ ';' ∉ sql.toList ∧ mutatingWord? sql.toList = none ∧ Marker.hasPlaceholders sql = false
  := by
  simp only [fault?, ← List.isEmpty_eq_false_iff]
  cases (statementStart sql.toList).isEmpty with
  | true => simp
  | false =>
      cases beginsWith selectWord (statementStart sql.toList) with
      | false => simp
      | true =>
          cases hseparator : sql.toList.contains ';' with
          | true => simp_all
          | false =>
              cases mutatingWord? sql.toList with
              | some w => simp
              | none =>
                  cases Marker.hasPlaceholders sql with
                  | true => simp
                  | false => simp_all

/-- An accepted predicate begins with SELECT where comments end at their first end marks. -/
theorem beginsWith_statementStart {sql : String} (h : fault? sql = none) :
  beginsWith selectWord (statementStart sql.toList) = true
  := by
  obtain ⟨-, hselect, -⟩ := (fault?_eq_none_iff sql).mp h
  apply hselect

theorem afterComment_ne_nil_of_fault? {sql : String} (h : fault? sql = none) {r : List Char}
    (hr : nested? sql.toList = some r) :
  afterComment ('*' :: r) ≠ []
  := by
  intro hend
  obtain ⟨-, -, hstart⟩ := starts_of_nested? hr
  have hselect := beginsWith_statementStart h
  rw [hstart, hend] at hselect
  revert hselect
  decide +kernel

/-- The two starts of a text differ only through a comment that is not flat: they are the same
exactly when they are the same behind the first such comment. That comment hides more of an
accepted predicate as a lexeme than up to its first end mark, and the predicate begins with SELECT
behind its lexemes exactly when there is no such comment or the text behind it does. -/
theorem beginsWith_lexicalStart_iff (sql : String) :
  (lexicalStart sql.toList = statementStart sql.toList
      ↔ ∀ r, nested? sql.toList = some r →
        lexicalStart (Marker.splitComment 0 r).2 = statementStart (afterComment ('*' :: r)))
    ∧ (fault? sql = none →
      (∀ r, nested? sql.toList = some r →
        (Marker.splitComment 0 r).2.length < (afterComment ('*' :: r)).length)
      ∧ (beginsWith selectWord (lexicalStart sql.toList) = true
        ↔ ∀ r, nested? sql.toList = some r →
          beginsWith selectWord (lexicalStart (Marker.splitComment 0 r).2) = true))
  := by
  cases hnested : nested? sql.toList with
  | none =>
      rw [lexicalStart_eq_statementStart hnested]
      constructor
      · simp
      · intro h
        simp [beginsWith_statementStart h]
  | some r =>
      obtain ⟨hflat, hl, hs⟩ := starts_of_nested? hnested
      rw [hl, hs]
      constructor
      · simp
      · intro h
        have := length_splitComment_lt_afterComment hflat (afterComment_ne_nil_of_fault? h hnested)
        simpa using this

/-- A comment that nests may be followed by a SELECT of its own. -/
theorem beginsWith_lexicalStart_behind_nested :
  fault? "/* /* */ SELECT 1 */ (SELECT 2)" = none
    ∧ beginsWith selectWord (lexicalStart "/* /* */ SELECT 1 */ (SELECT 2)".toList) = true
  := by
  have haccepted : fault? "/* /* */ SELECT 1 */ (SELECT 2)" = none := by
    decide +kernel
  have hnested : nested? "/* /* */ SELECT 1 */ (SELECT 2)".toList
      = some " /* */ SELECT 1 */ (SELECT 2)".toList := by
    decide +kernel
  use haccepted
  apply ((beginsWith_lexicalStart_iff _).2 haccepted).2.mpr
  rw [hnested]
  rintro _ ⟨⟩
  decide +kernel

/-- A comment that nests hides a SELECT from the lexemes, and a statement of another kind follows
it. -/
theorem not_beginsWith_lexicalStart :
  fault? "/* /* */ SELECT 1 */ VACUUM" = none
    ∧ statementStart "/* /* */ SELECT 1 */ VACUUM".toList = "SELECT 1 */ VACUUM".toList
    ∧ lexicalStart "/* /* */ SELECT 1 */ VACUUM".toList = "VACUUM".toList
    ∧ beginsWith selectWord (lexicalStart "/* /* */ SELECT 1 */ VACUUM".toList) = false
  := by
  decide +kernel

end BoundSql.Predicate
