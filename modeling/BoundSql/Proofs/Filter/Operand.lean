import BoundSql.Filter.Compile
import Mathlib.Data.List.Forall2
import Mathlib.Tactic.Use

/-!
# Conditions on columns

A condition takes operands, of which some are given and the others skipped. On
a column of a type it is refused at the first given operand that is no value of
the type. Else it is a clause when enough operands are given for its operator,
and it is dropped when not.
-/

namespace BoundSql

namespace Condition

/-! ### Operands -/

/-- The operands that the operator takes, in order, as far as they are there. -/
def taken (c : Condition) : List Json :=
  match c.operator with
  | .unset => []
  | .compare _ => c.value.toList
  | .like => c.value.toList
  | .between => c.value.toList ++ c.value2.toList
  | .among => c.elements?.getD []
  | .notAmong => c.elements?.getD []

/-- Whether an operand is given: there is something to look for, or it is not skipped. -/
def isGiven (c : Condition) (ty : ColumnType) (j : Json) : Bool :=
  if c.operator = .like then (searchText? (some j)).isSome else !isSkipped ty j

/-- The operands that are given. -/
def given (c : Condition) (ty : ColumnType) : List Json :=
  c.taken.filter (c.isGiven ty)

/-- Whether enough operands are given: both for a range, any for a list outside of which the column
is, none for a list in which it is as long as there is a list, and one for the others. -/
def remains (c : Condition) (ty : ColumnType) : Bool :=
  match c.operator with
  | .unset => false
  | .compare _ => (c.given ty).length = 1
  | .like => (c.given ty).length = 1
  | .between => (c.given ty).length = 2
  | .among => c.elements?.isSome
  | .notAmong => !(c.given ty).isEmpty

/-- Values are those of the given operands in order. -/
def Valued (c : Condition) (ty : ColumnType) (vs : List Value) : Prop :=
  List.Forall₂ (fun j v => Value.coerce ty j = .ok v) (c.given ty) vs

/-- The clause that a condition is on a column of a type, by its operator and the values of its
given operands. -/
inductive Reads (c : Condition) (column : Ident) (ty : ColumnType) : Clause → Prop where
  | compare {comparison : Comparison} {v : Value} (hoperator : c.operator = .compare comparison)
      (hvalues : c.Valued ty [v]) : Reads c column ty (.compare column comparison v)
  | like {j : Json} {s : String} (hoperator : c.operator = .like) (hgiven : c.given ty = [j])
      (hsearch : searchText? (some j) = some s) :
      Reads c column ty (.like column (ty != .text) (Clause.containing s))
  | between {low high : Value} (hoperator : c.operator = .between)
      (hvalues : c.Valued ty [low, high]) : Reads c column ty (.between column low high)
  | among {vs : List Value} (hoperator : c.operator = .among) (hvalues : c.Valued ty vs)
      (hne : vs ≠ []) : Reads c column ty (.among column vs)
  | never (hoperator : c.operator = .among) (hgiven : c.given ty = []) : Reads c column ty .never
  | notAmong {vs : List Value} (hoperator : c.operator = .notAmong) (hvalues : c.Valued ty vs)
      (hne : vs ≠ []) : Reads c column ty (.notAmong column vs)

/-- Operands are values of a type as far as they are given. -/
def Fit (ty : ColumnType) (js : List Json) (vs : List Value) : Prop :=
  List.Forall₂ (fun j v => Value.coerce ty j = .ok v) (js.filter (!isSkipped ty ·)) vs

/-- The first given operand that is no value of a type is refused. -/
def Unfit (ty : ColumnType) (js : List Json) (r : Refusal) : Prop :=
  ∃ past j rest, js = past ++ j :: rest
    ∧ (∀ p ∈ past, isSkipped ty p = true ∨ ∃ v, Value.coerce ty p = .ok v)
    ∧ isSkipped ty j = false ∧ Value.coerce ty j = .error r

/-- A condition is refused at the first given operand that is no value of its column's type. -/
structure Refused (c : Condition) (ty : ColumnType) (r : Refusal) : Prop where
  isSet : c.operator ≠ .unset
  notLike : c.operator ≠ .like
  unfit : Unfit ty c.taken r

section

variable {ty : ColumnType} {js js' : List Json} {vs vs' : List Value} {r : Refusal}

theorem Fit.append (h : Fit ty js vs) (h' : Fit ty js' vs') :
  Fit ty (js ++ js') (vs ++ vs')
  := by
  rw [Fit, List.filter_append]
  apply List.rel_append h h'

/-- An operand that fits is skipped or a value. -/
theorem Fit.skipped_or_value (h : Fit ty js vs) :
  ∀ j ∈ js, isSkipped ty j = true ∨ ∃ v, Value.coerce ty j = .ok v
  := by
  intro j hj
  cases hskipped : isSkipped ty j with
  | true =>
      left
      rfl
  | false =>
      right
      have hmem : j ∈ js.filter (!isSkipped ty ·) := by simp [hj, hskipped]
      obtain ⟨i, hi, rfl⟩ := List.getElem_of_mem hmem
      use vs.get ⟨i, h.length_eq ▸ hi⟩
      apply h.get

theorem Fit.not_unfit (h : Fit ty js vs) :
  ¬ Unfit ty js r
  := by
  rintro ⟨past, j, rest, rfl, _, hgiven, hrefused⟩
  rcases h.skipped_or_value j (by simp) with hskipped | ⟨v, hv⟩
  · rw [hgiven] at hskipped
    contradiction
  · rw [hrefused] at hv
    contradiction

theorem Unfit.append (h : Unfit ty js r) (js' : List Json) :
  Unfit ty (js ++ js') r
  := by
  obtain ⟨past, j, rest, rfl, hpast, hj⟩ := h
  use past, j, rest ++ js', by simp, hpast

theorem Fit.unfit_append (h : Fit ty js vs) (h' : Unfit ty js' r) :
  Unfit ty (js ++ js') r
  := by
  obtain ⟨past, j, rest, rfl, hpast, hj⟩ := h'
  use js ++ past, j, rest, by simp
  constructor
  · intro p hp
    rw [List.mem_append] at hp
    rcases hp with hp | hp
    · apply h.skipped_or_value p hp
    · apply hpast p hp
  · apply hj

/-- An operand is refused, or it is a value or skipped. -/
theorem operand_cases (column : Ident) (ty : ColumnType) (o : Option Json) :
  (∃ r, Unfit ty o.toList r ∧ operand column ty o = .error (.invalidValue column.text r))
    ∨ ∃ v : Option Value, Fit ty o.toList v.toList ∧ operand column ty o = .ok v
  := by
  cases o with
  | none =>
      right
      use none, List.Forall₂.nil
      rfl
  | some j =>
      cases hskipped : isSkipped ty j with
      | true =>
          right
          use none
          simp [Fit, operand, hskipped]
      | false =>
          cases hvalue : Value.coerce ty j with
          | error r =>
              left
              use r, ⟨[], j, [], rfl, by simp, hskipped, hvalue⟩
              simp [operand, hskipped, hvalue]
          | ok v =>
              right
              use some v
              simp [Fit, operand, hskipped, hvalue]

/-- The first operand of a list that does not fit is refused; else all are values or skipped. -/
theorem operands_cases (column : Ident) (ty : ColumnType) (js : List Json) :
  (∃ r, Unfit ty js r ∧ operands column ty js = .error (.invalidValue column.text r))
    ∨ ∃ vs, Fit ty js vs ∧ operands column ty js = .ok vs
  := by
  induction js with
  | nil =>
      right
      use [], List.Forall₂.nil
      rfl
  | cons j js ih =>
      rcases operand_cases column ty (some j) with ⟨r, hunfit, hfirst⟩ | ⟨v, hfit, hfirst⟩
      · left
        use r, hunfit.append js
        rw [operands, hfirst]
        rfl
      · rcases ih with ⟨r, hunfit, hrest⟩ | ⟨vs, hfits, hrest⟩
        · left
          use r, hfit.unfit_append hunfit
          rw [operands, hfirst, hrest]
          rfl
        · right
          use v.toList ++ vs, hfit.append hfits
          rw [operands, hfirst, hrest]
          rfl

end

/-! ### One condition on its column -/

section

variable {c : Condition} {ty : ColumnType}

theorem given_eq_of_ne_like (h : c.operator ≠ .like) (ty : ColumnType) :
  c.given ty = c.taken.filter (!isSkipped ty ·)
  := by
  rw [given]
  congr 1
  funext j
  rw [isGiven, if_neg h]

theorem valued_of_fit (h : c.operator ≠ .like) {vs : List Value} (hfit : Fit ty c.taken vs) :
  c.Valued ty vs
  := by
  rw [Valued, given_eq_of_ne_like h]
  apply hfit

/-- Operands that fit are not refused. -/
theorem not_refused_of_fit {vs : List Value} (h : Fit ty c.taken vs) (r : Refusal) :
  ¬ c.Refused ty r
  := by
  intro hrefused
  apply h.not_unfit hrefused.unfit

/-- What becomes of a condition on a column: it is refused, or it is a clause when it remains and
nothing when it does not. -/
inductive Compiles (c : Condition) (column : Ident) (ty : ColumnType) :
    Except Error (Option Clause) → Prop where
  | refused {r : Refusal} (hrefused : c.Refused ty r) :
      Compiles c column ty (.error (.invalidValue column.text r))
  | reads {clause : Clause} (hrefused : ∀ r, ¬ c.Refused ty r) (hremains : c.remains ty = true)
      (hreads : c.Reads column ty clause) : Compiles c column ty (.ok (some clause))
  | dropped (hrefused : ∀ r, ¬ c.Refused ty r) (hremains : c.remains ty = false) :
      Compiles c column ty (.ok none)

variable (column : Ident)

theorem compiles_unset (hoperator : c.operator = .unset) :
  c.Compiles column ty (c.clauseOn column ty)
  := by
  have hclause : c.clauseOn column ty = .ok none := by
    simp only [clauseOn, hoperator]
  rw [hclause]
  apply Compiles.dropped
  · intro r hrefused
    apply hrefused.isSet hoperator
  · simp only [remains, hoperator]

theorem compiles_compare {comparison : Comparison} (hoperator : c.operator = .compare comparison) :
  c.Compiles column ty (c.clauseOn column ty)
  := by
  have htaken : c.taken = c.value.toList := by
    simp only [taken, hoperator]
  have hlike : c.operator ≠ .like := by simp [hoperator]
  rcases operand_cases column ty c.value with ⟨r, hunfit, hoperand⟩ | ⟨v, hfit, hoperand⟩
  · have hclause : c.clauseOn column ty = .error (.invalidValue column.text r) := by
      simp only [clauseOn, hoperator, hoperand]
      rfl
    rw [hclause]
    apply Compiles.refused ⟨by simp [hoperator], hlike, htaken ▸ hunfit⟩
  · have hclause : c.clauseOn column ty = .ok (v.map (.compare column comparison)) := by
      simp only [clauseOn, hoperator, hoperand]
      rfl
    rw [← htaken] at hfit
    have hvalued := valued_of_fit hlike hfit
    rw [hclause]
    cases v with
    | none =>
        apply Compiles.dropped (not_refused_of_fit hfit)
        simp [remains, hoperator, hvalued.length_eq]
    | some v =>
        apply Compiles.reads (not_refused_of_fit hfit)
        · simp [remains, hoperator, hvalued.length_eq]
        · apply Reads.compare hoperator hvalued

theorem compiles_like (hoperator : c.operator = .like) :
  c.Compiles column ty (c.clauseOn column ty)
  := by
  have hrefused : ∀ r, ¬ c.Refused ty r := by
    intro r hrefused
    apply hrefused.notLike hoperator
  have hgiven : c.given ty = c.value.toList.filter fun j => (searchText? (some j)).isSome := by
    rw [given, taken, hoperator]
    congr 1
    funext j
    rw [isGiven, if_pos hoperator]
  have hclause : c.clauseOn column ty = .ok ((searchText? c.value).map fun s =>
      .like column (ty != .text) (Clause.containing s)) := by
    simp only [clauseOn, hoperator]
  rw [hclause]
  cases hsearch : searchText? c.value with
  | none =>
      apply Compiles.dropped hrefused
      cases hvalue : c.value with
      | none => simp [remains, hoperator, hgiven, hvalue]
      | some j =>
          rw [hvalue] at hsearch
          simp [remains, hoperator, hgiven, hvalue, hsearch]
  | some s =>
      obtain ⟨j, hvalue⟩ : ∃ j, c.value = some j := by
        cases hvalue : c.value with
        | none =>
            rw [hvalue] at hsearch
            contradiction
        | some j => use j
      rw [hvalue] at hsearch
      have hj : c.given ty = [j] := by simp [hgiven, hvalue, hsearch]
      apply Compiles.reads hrefused
      · simp [remains, hoperator, hj]
      · apply Reads.like hoperator hj hsearch

theorem compiles_between (hoperator : c.operator = .between) :
  c.Compiles column ty (c.clauseOn column ty)
  := by
  have htaken : c.taken = c.value.toList ++ c.value2.toList := by
    simp only [taken, hoperator]
  have hlike : c.operator ≠ .like := by simp [hoperator]
  have hset : c.operator ≠ .unset := by simp [hoperator]
  rcases operand_cases column ty c.value with ⟨r, hunfit, hlow⟩ | ⟨low, hfit, hlow⟩
  · have hclause : c.clauseOn column ty = .error (.invalidValue column.text r) := by
      simp only [clauseOn, hoperator, hlow]
      rfl
    rw [hclause]
    apply Compiles.refused ⟨hset, hlike, htaken ▸ hunfit.append _⟩
  · rcases operand_cases column ty c.value2 with ⟨r, hunfit, hhigh⟩ | ⟨high, hfit', hhigh⟩
    · have hclause : c.clauseOn column ty = .error (.invalidValue column.text r) := by
        simp only [clauseOn, hoperator, hlow, hhigh]
        rfl
      rw [hclause]
      apply Compiles.refused ⟨hset, hlike, htaken ▸ hfit.unfit_append hunfit⟩
    · have hfits := hfit.append hfit'
      rw [← htaken] at hfits
      have hvalued := valued_of_fit hlike hfits
      have hclause : c.clauseOn column ty
          = .ok (low.bind fun low => high.map (.between column low)) := by
        simp only [clauseOn, hoperator, hlow, hhigh]
        cases low with
        | none => rfl
        | some low =>
            cases high with
            | none => rfl
            | some high => rfl
      rw [hclause]
      have hrefused := not_refused_of_fit (c := c) hfits
      cases low with
      | none =>
          apply Compiles.dropped hrefused
          cases high with
          | _ => simp [remains, hoperator, hvalued.length_eq]
      | some low =>
          cases high with
          | none =>
              apply Compiles.dropped hrefused
              simp [remains, hoperator, hvalued.length_eq]
          | some high =>
              apply Compiles.reads hrefused
              · simp [remains, hoperator, hvalued.length_eq]
              · apply Reads.between hoperator hvalued

theorem compiles_among (hoperator : c.operator = .among) :
  c.Compiles column ty (c.clauseOn column ty)
  := by
  have hlike : c.operator ≠ .like := by simp [hoperator]
  cases helements : c.elements? with
  | none =>
      have htaken : c.taken = [] := by simp only [taken, hoperator, helements, Option.getD_none]
      have hfit : Fit ty c.taken [] := by
        rw [htaken]
        apply List.Forall₂.nil
      have hclause : c.clauseOn column ty = .ok none := by
        simp only [clauseOn, hoperator, helements]
      rw [hclause]
      apply Compiles.dropped
      · apply not_refused_of_fit hfit
      · simp only [remains, hoperator, helements, Option.isSome_none]
  | some js =>
      have htaken : c.taken = js := by simp only [taken, hoperator, helements, Option.getD_some]
      rcases operands_cases column ty js with ⟨r, hunfit, hoperands⟩ | ⟨vs, hfit, hoperands⟩
      · have hclause : c.clauseOn column ty = .error (.invalidValue column.text r) := by
          simp only [clauseOn, hoperator, helements, hoperands]
          rfl
        rw [hclause]
        apply Compiles.refused ⟨by simp [hoperator], hlike, htaken ▸ hunfit⟩
      · have hclause : c.clauseOn column ty
            = .ok (some (if vs.isEmpty then .never else .among column vs)) := by
          simp only [clauseOn, hoperator, helements, hoperands]
          rfl
        rw [← htaken] at hfit
        have hvalued := valued_of_fit hlike hfit
        rw [hclause]
        apply Compiles.reads (not_refused_of_fit hfit)
        · simp only [remains, hoperator, helements, Option.isSome_some]
        · cases vs with
          | nil => apply Reads.never hoperator (List.forall₂_nil_right_iff.mp hvalued)
          | cons v vs => apply Reads.among hoperator hvalued (List.cons_ne_nil v vs)

theorem compiles_notAmong (hoperator : c.operator = .notAmong) :
  c.Compiles column ty (c.clauseOn column ty)
  := by
  have hlike : c.operator ≠ .like := by simp [hoperator]
  cases helements : c.elements? with
  | none =>
      have htaken : c.taken = [] := by simp only [taken, hoperator, helements, Option.getD_none]
      have hfit : Fit ty c.taken [] := by
        rw [htaken]
        apply List.Forall₂.nil
      have hclause : c.clauseOn column ty = .ok none := by
        simp only [clauseOn, hoperator, helements]
      rw [hclause]
      apply Compiles.dropped
      · apply not_refused_of_fit hfit
      · simp [remains, hoperator, given, htaken]
  | some js =>
      have htaken : c.taken = js := by simp only [taken, hoperator, helements, Option.getD_some]
      rcases operands_cases column ty js with ⟨r, hunfit, hoperands⟩ | ⟨vs, hfit, hoperands⟩
      · have hclause : c.clauseOn column ty = .error (.invalidValue column.text r) := by
          simp only [clauseOn, hoperator, helements, hoperands]
          rfl
        rw [hclause]
        apply Compiles.refused ⟨by simp [hoperator], hlike, htaken ▸ hunfit⟩
      · have hclause : c.clauseOn column ty
            = .ok (if vs.isEmpty then none else some (.notAmong column vs)) := by
          simp only [clauseOn, hoperator, helements, hoperands]
          rfl
        rw [← htaken] at hfit
        have hvalued := valued_of_fit hlike hfit
        rw [hclause]
        cases vs with
        | nil =>
            apply Compiles.dropped (not_refused_of_fit hfit)
            simp [remains, hoperator, List.forall₂_nil_right_iff.mp hvalued]
        | cons v vs =>
            apply Compiles.reads (not_refused_of_fit hfit)
            · have hne : c.given ty ≠ [] := by
                intro hnil
                have hlength := hvalued.length_eq
                rw [hnil] at hlength
                contradiction
              simp [remains, hoperator, hne]
            · apply Reads.notAmong hoperator hvalued (List.cons_ne_nil v vs)

theorem compiles_clauseOn (c : Condition) (column : Ident) (ty : ColumnType) :
  c.Compiles column ty (c.clauseOn column ty)
  := by
  cases hoperator : c.operator with
  | unset => apply compiles_unset column hoperator
  | compare comparison => apply compiles_compare column hoperator
  | like => apply compiles_like column hoperator
  | between => apply compiles_between column hoperator
  | among => apply compiles_among column hoperator
  | notAmong => apply compiles_notAmong column hoperator

end

end Condition

end BoundSql
