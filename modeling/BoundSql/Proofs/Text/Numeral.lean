import BoundSql.Text.Blank
import BoundSql.Text.Digits
import Mathlib.Algebra.Group.Nat.Defs

/-!
# Numerals

A numeral is a text of decimal digits. None of its characters is blank, and it
is taken from the head of a text as far as it goes. A number in a column that is
wide enough has as many digits as the column.
-/

namespace BoundSql.Text

theorem isDigit_iff (c : Char) :
  c.isDigit = true ↔ 48 ≤ c.toNat ∧ c.toNat ≤ 57
  := by
  simp only [Char.isDigit, Bool.and_eq_true, decide_eq_true_eq]
  apply Iff.rfl

theorem isAlpha_iff (c : Char) :
  c.isAlpha = true ↔ (65 ≤ c.toNat ∧ c.toNat ≤ 90) ∨ (97 ≤ c.toNat ∧ c.toNat ≤ 122)
  := by
  show (c.isUpper || c.isLower) = true ↔ _
  rw [Bool.or_eq_true]
  apply or_congr
  · apply decide_eq_true_iff
  · show (decide _ && decide _) = true ↔ _
    rw [Bool.and_eq_true, decide_eq_true_eq, decide_eq_true_eq]
    apply Iff.rfl

/-! ### Texts without blanks -/

/-- A text has no blank character. -/
def Unblank (cs : List Char) : Prop :=
  ∀ c ∈ cs, isBlankChar c = false

instance (cs : List Char) : Decidable (Unblank cs) :=
  inferInstanceAs (Decidable (∀ c ∈ cs, _))

theorem unblank_append {cs ds : List Char} :
  Unblank (cs ++ ds) ↔ Unblank cs ∧ Unblank ds
  := List.forall_mem_append

theorem unblank_cons {c : Char} {cs : List Char} :
  Unblank (c :: cs) ↔ isBlankChar c = false ∧ Unblank cs
  := List.forall_mem_cons

theorem unblank_nil :
  Unblank []
  := by
  intro c hc
  contradiction

/-- A text opens with a character that is not blank. -/
theorem dropBlanks_cons {c : Char} (h : isBlankChar c = false) (cs : List Char) :
  dropBlanks (c :: cs) = c :: cs
  := by
  rw [dropBlanks, List.dropWhile_cons_of_neg]
  simp [h]

theorem Unblank.dropBlanks_eq {cs : List Char} (h : Unblank cs) :
  dropBlanks cs = cs
  := by
  cases cs with
  | nil => rfl
  | cons c cs => apply dropBlanks_cons (unblank_cons.mp h).1

/-- A text without blanks that has characters keeps the blanks behind it. -/
theorem Unblank.dropBlanks_append {cs : List Char} (h : Unblank cs) (hne : cs ≠ [])
    (rest : List Char) :
  dropBlanks (cs ++ rest) = cs ++ rest
  := by
  obtain ⟨c, cs, rfl⟩ := List.exists_cons_of_ne_nil hne
  apply dropBlanks_cons (unblank_cons.mp h).1

/-- There is nothing to trim off a text without blanks. -/
theorem Unblank.trim_eq {cs : List Char} (h : Unblank cs) :
  trim (String.ofList cs) = String.ofList cs
  := by
  have hreverse : Unblank cs.reverse := by
    intro c hc
    apply h c (List.mem_reverse.mp hc)
  rw [trim, String.toList_ofList, trimChars, h.dropBlanks_eq, dropBlanksEnd]
  congr 1
  rw [← dropBlanks, hreverse.dropBlanks_eq, List.reverse_reverse]

/-- A text without blanks that has characters is not blank. -/
theorem Unblank.isBlank_eq_false {cs : List Char} (h : Unblank cs) (hne : cs ≠ []) :
  isBlank (String.ofList cs) = false
  := by
  obtain ⟨c, cs, rfl⟩ := List.exists_cons_of_ne_nil hne
  rw [isBlank, String.toList_ofList, List.all_cons, (unblank_cons.mp h).1, Bool.false_and]

/-! ### Numerals -/

/-- A text of at least one digit and nothing else. -/
structure Numeral (ds : List Char) : Prop where
  digits : ∀ c ∈ ds, c.isDigit = true
  nonempty : ds ≠ []

theorem isBlankChar_of_isDigit {c : Char} (h : c.isDigit = true) :
  isBlankChar c = false
  := by
  rw [isDigit_iff] at h
  rw [isBlankChar, Bool.eq_false_iff]
  intro hblank
  obtain ⟨r, hr, hlow, hhigh⟩ := (inRuns_iff _ _).mp hblank
  simp only [blankRuns, List.mem_cons, List.not_mem_nil, or_false] at hr
  rcases hr with rfl | rfl | rfl | rfl | rfl | rfl | rfl | rfl | rfl | rfl
  all_goals
    simp only at hlow hhigh
    omega

theorem Numeral.unblank {ds : List Char} (h : Numeral ds) :
  Unblank ds
  := by
  intro c hc
  apply isBlankChar_of_isDigit (h.digits c hc)

theorem numeral_padded (width n : Nat) :
  Numeral (padded width n)
  := by
  constructor
  · intro c hc
    rcases List.mem_append.mp hc with hc | hc
    · obtain rfl := List.eq_of_mem_replicate hc
      decide
    · apply isDigit_of_mem_digits hc
  · apply List.append_ne_nil_of_right_ne_nil _ (digits_ne_nil n)

/-- There is no blank in front of a number. -/
theorem dropBlanks_padded (width n : Nat) (rest : List Char) :
  dropBlanks (padded width n ++ rest) = padded width n ++ rest
  := (numeral_padded width n).unblank.dropBlanks_append (numeral_padded width n).nonempty rest

theorem length_padded {width n : Nat} (hwidth : 0 < width) (h : n < 10 ^ width) :
  (padded width n).length = width
  := by
  have hdigits := (Nat.length_toDigits_le_iff (by decide) hwidth).mpr h
  rw [padded, List.length_append, List.length_replicate, digits]
  omega

/-- No digit follows. -/
def StopsDigits (rest : List Char) : Prop :=
  ∀ c ∈ rest.head?, c.isDigit = false

theorem takeDigits_of_stopsDigits {rest : List Char} (h : StopsDigits rest) (limit : Nat) :
  takeDigits limit rest = ([], rest)
  := by
  cases rest with
  | nil => simp [takeDigits]
  | cons c rest =>
      cases limit with
      | zero => rw [takeDigits]
      | succ limit =>
          rw [takeDigits, h c rfl]
          rfl

/-- Digits are taken as far as they go, when there is room for them and no digit follows for which
there is room. -/
theorem takeDigits_append_of_digits {ds rest : List Char} {limit : Nat}
    (hdigits : ∀ c ∈ ds, c.isDigit = true) (hlength : ds.length ≤ limit)
    (hrest : ds.length = limit ∨ StopsDigits rest) :
  takeDigits limit (ds ++ rest) = (ds, rest)
  := by
  induction ds generalizing limit with
  | nil =>
      rcases hrest with rfl | hstops
      · cases rest with
        | nil => rfl
        | cons c rest => rfl
      · apply takeDigits_of_stopsDigits hstops
  | cons c ds ih =>
      rw [List.forall_mem_cons] at hdigits
      cases limit with
      | zero => contradiction
      | succ limit =>
          have htake := ih hdigits.2 (Nat.le_of_succ_le_succ hlength)
            (hrest.imp_left Nat.succ.inj)
          rw [List.cons_append, takeDigits, if_pos hdigits.1, htake]

theorem dropWhile_of_stopsDigits {rest : List Char} (h : StopsDigits rest) :
  rest.dropWhile Char.isDigit = rest
  := by
  cases rest with
  | nil => rfl
  | cons c rest => rw [List.dropWhile_cons_of_neg (by simp [h c rfl])]

end BoundSql.Text
