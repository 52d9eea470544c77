import BoundSql.Clause
import BoundSql.Proofs.Fragment.Symbol

/-!
# Wordings of clauses

Clauses are written with the characters of names and a few signs, and they are
legible. The clauses behind WHERE open apart, so they may stand behind a name or
a value.
-/

namespace BoundSql

open Fragment

namespace Clause

/-! ### Plain wording -/

theorem plain_sign (comparison : Comparison) :
  (text comparison.sign).Plain
  := by
  apply plain_text
  cases comparison with
  | _ => decide

theorem plain_fragment (clause : Clause) :
  clause.fragment.Plain
  := by
  cases clause with
  | compare column comparison v =>
      simp only [fragment, plain_append]
      use ⟨plain_ident column, plain_sign comparison⟩, plain_bound v
  | like column asText pattern =>
      cases asText with
      | true =>
          simp only [fragment, if_true, plain_append]
          use ⟨⟨⟨plain_text (by decide), plain_ident column⟩, plain_text (by decide)⟩,
            plain_text (by decide)⟩, plain_bound _
      | false =>
          simp only [fragment, Bool.false_eq_true, if_false, plain_append]
          use ⟨plain_ident column, plain_text (by decide)⟩, plain_bound _
  | between column low high =>
      simp only [fragment, plain_append]
      use ⟨⟨⟨plain_ident column, plain_text (by decide)⟩, plain_bound low⟩,
        plain_text (by decide)⟩, plain_bound high
  | among column vs =>
      simp only [fragment, plain_append]
      use ⟨⟨plain_ident column, plain_text (by decide)⟩, plain_boundList vs⟩,
        plain_text (by decide)
  | notAmong column vs =>
      simp only [fragment, plain_append]
      use ⟨⟨plain_ident column, plain_text (by decide)⟩, plain_boundList vs⟩,
        plain_text (by decide)
  | null column =>
      simp only [fragment, plain_append]
      use plain_ident column, plain_text (by decide)
  | notNull column =>
      simp only [fragment, plain_append]
      use plain_ident column, plain_text (by decide)
  | never => apply plain_text (by decide)

theorem plain_conjunction (clauses : List Clause) :
  (conjunction clauses).Plain
  := by
  apply plain_joined (by decide)
  rw [List.forall_mem_map]
  intro clause _
  apply plain_fragment

theorem plain_whereFragment (clauses : List Clause) :
  (whereFragment clauses).Plain
  := by
  rw [whereFragment]
  split
  · apply plain_empty
  · apply plain_append.mpr ⟨plain_text (by decide), plain_conjunction clauses⟩

/-! ### Legibility -/

theorem legible_fragment (clause : Clause) :
  clause.fragment.Legible
  := by
  cases clause with
  | compare column comparison v =>
      rw [fragment, append_assoc]
      apply legible_ident_append
      apply legible_text_append _ (legible_bound v)
      cases comparison with
      | _ => decide
  | like column asText pattern =>
      have hpattern : (text " LIKE " ++ bound (.text pattern)).Legible :=
        legible_text_append (by decide) (legible_bound _)
      rw [fragment, append_assoc]
      cases asText with
      | true =>
          simp only [if_true, append_assoc]
          apply legible_text_append (by decide)
          apply legible_ident_append
          apply legible_text_append (by decide) hpattern
      | false =>
          simp only [Bool.false_eq_true, if_false]
          apply legible_ident_append column hpattern
  | between column low high =>
      simp only [fragment, append_assoc]
      apply legible_ident_append
      apply legible_text_append (by decide)
      apply legible_bound_append low
      · apply legible_text_append (by decide) (legible_bound high)
      · apply opensApart_text_append (by decide)
  | among column vs =>
      simp only [fragment, append_assoc]
      apply legible_ident_append
      apply legible_text_append (by decide) (legible_boundList_closed vs)
  | notAmong column vs =>
      simp only [fragment, append_assoc]
      apply legible_ident_append
      apply legible_text_append (by decide) (legible_boundList_closed vs)
  | null column => apply legible_ident_append column (legible_text (by decide))
  | notNull column => apply legible_ident_append column (legible_text (by decide))
  | never => apply legible_text (by decide)

theorem legible_conjunction (clauses : List Clause) :
  (conjunction clauses).Legible
  := by
  apply legible_joined (by decide) (by decide)
  rw [List.forall_mem_map]
  intro clause _
  apply legible_fragment

theorem legible_whereFragment (clauses : List Clause) :
  (whereFragment clauses).Legible
  := by
  rw [whereFragment]
  split
  · apply legible_empty
  · apply legible_text_append (by decide) (legible_conjunction clauses)

theorem opensApart_whereFragment (clauses : List Clause) :
  (whereFragment clauses).OpensApart
  := by
  rw [whereFragment]
  split
  · apply opensApart_empty
  · apply opensApart_text_append (by decide)

/-! ### Outlines -/

/-- The clauses behind WHERE have the same outline when the clauses have, one by one. -/
theorem outline_whereFragment {clauses clauses' : List Clause}
    (h : clauses.map (·.fragment.outline) = clauses'.map (·.fragment.outline)) :
  (whereFragment clauses).outline = (whereFragment clauses').outline
  := by
  have hempty : clauses.isEmpty = clauses'.isEmpty := by
    simpa using congrArg List.isEmpty h
  have hconjunction : (conjunction clauses).outline = (conjunction clauses').outline := by
    simp only [conjunction, outline_joined, List.map_map]
    congr 1
  rw [whereFragment, whereFragment, hempty]
  split
  · rfl
  · rw [outline_append, outline_append, hconjunction]

end Clause

end BoundSql
