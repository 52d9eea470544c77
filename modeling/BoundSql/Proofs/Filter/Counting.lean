import BoundSql.Proofs.Clause.Reading
import BoundSql.Proofs.Filter.Listing
import BoundSql.Proofs.Filter.Survival

/-!
# Counts

A count fails at the first condition that is refused. Else its text and its
values tell the table and the clauses of the conditions that survive. A
condition that neither survives nor is refused can be left out or put in; only
a range with one of its operands can be refused without surviving.
-/

namespace BoundSql

open Fragment

/-! ### Reading counts -/

/-- The table and the clauses of a count. -/
def Statement.readCounting? (s : Statement) : Option (Ident × List Clause) := do
  let symbols ← s.symbols?
  let symbols ← Symbol.takeText? "SELECT COUNT(*) FROM ".toList symbols
  let (name, symbols) := Symbol.takeName symbols
  let table ← Symbol.ident? name
  let (clauses, rest) ← Clause.takeWhere? symbols
  if rest.isEmpty then some (table, clauses) else none

/-- A count is read back. -/
theorem Statement.readCounting?_counting (table : Ident) (clauses : List Clause) :
  (FilterRequest.counting (ident table) clauses).build.readCounting? = some (table, clauses)
  := by
  have hlegible : (FilterRequest.counting (ident table) clauses).Legible :=
    FilterRequest.legible_counting (legible_ident table) clauses
  have hblank : ∀ c r, (Clause.whereFragment clauses).symbols = .char c :: r →
      Ident.isNameChar c = false := by
    intro c r h
    cases clauses with
    | nil => contradiction
    | cons clause clauses =>
        simp only [Clause.whereFragment, List.isEmpty_cons, Bool.false_eq_true, if_false,
          symbols_append, symbols_text] at h
        obtain ⟨⟨⟩, _⟩ := List.cons.inj h
        decide
  have hwhere := Clause.takeWhere?_append clauses (s := []) rfl rfl
  rw [List.append_nil] at hwhere
  rw [readCounting?, symbols?_build hlegible, FilterRequest.counting, FilterRequest.rowsOf,
    symbols_append, symbols_append, List.append_assoc, symbols_text, symbols_ident]
  simp only [Option.bind_eq_bind, Option.bind_some, Symbol.takeText?_append,
    Symbol.takeName_ident table hblank, Symbol.ident?_toList, hwhere, List.isEmpty_nil, if_true]

/-! ### Conditions that are refused without surviving -/

namespace Condition

variable {scope : Scope} {c : Condition}

/-- A condition that compiles is not refused. -/
theorem not_refusedIn_of_clause {o : Option Clause} (h : c.clause scope = .ok o) (column : Ident)
    (r : Refusal) :
  ¬ c.RefusedIn scope column r
  := by
  have hcompile := c.compilesIn_clause scope
  rw [h] at hcompile
  cases hcompile with
  | reads hrefused _ _ => apply hrefused
  | dropped hrefused _ => apply hrefused

/-- A refused condition has an operand that is given. -/
theorem Refused.given_ne_nil {ty : ColumnType} {r : Refusal} (h : c.Refused ty r) :
  c.given ty ≠ []
  := by
  obtain ⟨past, j, rest, htaken, _, hgiven, _⟩ := h.unfit
  rw [given_eq_of_ne_like h.notLike, htaken]
  simp [hgiven]

/-- Only a range can be refused without surviving: it has one of its operands and lacks the
other. -/
theorem RefusedIn.operator_eq_between {column : Ident} {r : Refusal}
    (h : c.RefusedIn scope column r) (hsurvives : c.survives scope = false) :
  c.operator = .between
  := by
  obtain ⟨ty, hplaced, hrefused⟩ := h
  have hgiven := hrefused.given_ne_nil
  have hremains : c.remains ty = false := by
    rw [survives, hplaced] at hsurvives
    apply hsurvives
  have hlength : (c.given ty).length ≤ c.taken.length := by
    rw [given]
    apply List.length_filter_le
  have htaken : 1 ≤ (c.given ty).length := List.length_pos_iff.mpr hgiven
  cases hoperator : c.operator with
  | unset => cases hrefused.isSet hoperator
  | like => cases hrefused.notLike hoperator
  | between => rfl
  | compare comparison =>
      have hone : c.taken.length ≤ 1 := by
        simp only [taken, hoperator]
        cases c.value with
        | _ => simp
      simp only [remains, hoperator, decide_eq_false_iff_not] at hremains
      omega
  | among =>
      simp only [remains, hoperator, Option.isSome_eq_false_iff, Option.isNone_iff_eq_none]
        at hremains
      simp [taken, hoperator, hremains] at hlength
      contradiction
  | notAmong => simp [remains, hoperator, hgiven] at hremains

end Condition

/-! ### Counts of conditions -/

namespace FilterRequest

/-- A count is refused with its conditions, or it is the count of the clauses that they are. -/
theorem count_cases (table : Ident) (conditions : List Condition) (layout : Option Layout) :
  (∃ column r, Condition.FirstRefused (.ofLayout? layout) conditions column r
      ∧ count table conditions layout = .error (.invalidValue column.text r))
    ∨ (∀ c ∈ conditions, ∀ column r, ¬ c.RefusedIn (.ofLayout? layout) column r)
      ∧ ∃ clauses, count table conditions layout = .ok (counting (ident table) clauses).build
        ∧ List.Forall₂ (Condition.ReadsIn (.ofLayout? layout))
          (conditions.filter (Condition.survives (.ofLayout? layout))) clauses
  := by
  have hcompile := Condition.compileIn_clauses (.ofLayout? layout) conditions
  rw [count_eq_map]
  generalize Condition.clauses (.ofLayout? layout) conditions = result at hcompile
  cases hcompile with
  | @refused column r hfirst =>
      left
      use column, r, hfirst
      rfl
  | @reads clauses hrefused hreads =>
      right
      use hrefused, clauses, rfl, hreads

/-- A count fails at the first condition that is refused, with the name of its column, or it tells
the table and the clauses of the conditions that survive. Conditions that neither survive nor are
refused can be left out and put in, and among those that do not survive only ranges are refused. -/
theorem count_reads_back (table : Ident) (conditions : List Condition) (layout : Option Layout) :
  ((∃ column r, Condition.FirstRefused (.ofLayout? layout) conditions column r
      ∧ count table conditions layout = .error (.invalidValue column.text r))
    ∨ (∀ c ∈ conditions, ∀ column r, ¬ c.RefusedIn (.ofLayout? layout) column r)
      ∧ ∃ s clauses, count table conditions layout = .ok s
        ∧ s.readCounting? = some (table, clauses)
        ∧ List.Forall₂ (Condition.ReadsIn (.ofLayout? layout))
          (conditions.filter (Condition.survives (.ofLayout? layout))) clauses)
    ∧ (∀ before c after, conditions = before ++ c :: after →
      c.survives (.ofLayout? layout) = false →
      (∀ column r, ¬ c.RefusedIn (.ofLayout? layout) column r) →
      count table conditions layout = count table (before ++ after) layout)
    ∧ ∀ c ∈ conditions, c.survives (.ofLayout? layout) = false →
      ∀ column r, c.RefusedIn (.ofLayout? layout) column r → c.operator = .between
  := by
  constructor
  · rcases count_cases table conditions layout with hfails | ⟨hrefused, clauses, hcount, hreads⟩
    · left
      apply hfails
    · right
      use hrefused, (counting (ident table) clauses).build, clauses, hcount
      use Statement.readCounting?_counting table clauses
  · constructor
    · rintro before c after rfl hsurvives hrefused
      rw [count, count, Condition.clauses_without hsurvives hrefused]
    · intro c _ hsurvives column r hrefused
      apply hrefused.operator_eq_between hsurvives

/-- A range of whole numbers that has no end. -/
def halfRange (low : String) : Condition where
  column := "qty"
  operator := .between
  value := some (.string low)
  declaredType := some "int"

/-- A list of nothing but a null. -/
def nullList : Condition where
  column := "note"
  operator := .among
  values := some [.null]

/-- A list of nothing but a null is the clause that never holds, and a range without its end is
dropped. -/
theorem count_reads_back_halfRange :
  ∃ s, count ⟨"lot", by decide⟩ [halfRange "5", nullList] none = .ok s
    ∧ count ⟨"lot", by decide⟩ [nullList] none = .ok s
    ∧ s.readCounting? = some (⟨"lot", by decide⟩, [.never])
  := by
  have hdropped : (halfRange "5").clause .any = .ok none := by rfl
  have hsurvives : (halfRange "5").survives .any = false := by decide +kernel
  obtain ⟨_, hwithout, _⟩ := count_reads_back ⟨"lot", by decide⟩ [halfRange "5", nullList] none
  have hsame := hwithout [] _ _ rfl hsurvives (Condition.not_refusedIn_of_clause hdropped)
  have hcount : count ⟨"lot", by decide⟩ [nullList] none
      = .ok (counting (ident ⟨"lot", by decide⟩) [.never]).build := by rfl
  use (counting (ident ⟨"lot", by decide⟩) [.never]).build, hsame.trans hcount, hcount
  apply Statement.readCounting?_counting

/-- A range without its end does not survive, but a beginning that is no value of the column's type
is refused all the same. -/
theorem not_count_without_halfRange :
  ¬ ∀ (table : Ident) (before : List Condition) (c : Condition) (after : List Condition)
      (layout : Option Layout), c.survives (.ofLayout? layout) = false →
    count table (before ++ c :: after) layout = count table (before ++ after) layout
  := by
  intro h
  have hsurvives : (halfRange "abc").survives .any = false := by decide +kernel
  have hsame := h ⟨"lot", by decide⟩ [] (halfRange "abc") [] none hsurvives
  have herror : count ⟨"lot", by decide⟩ [halfRange "abc"] none
      = .error (.invalidValue "qty" ⟨.integer, .text "abc"⟩) := by rfl
  have hok : count ⟨"lot", by decide⟩ [] none
      = .ok (counting (ident ⟨"lot", by decide⟩) []).build := by rfl
  rw [List.nil_append, List.nil_append, herror, hok] at hsame
  contradiction

end FilterRequest

end BoundSql
