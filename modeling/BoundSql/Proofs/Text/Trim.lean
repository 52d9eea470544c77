import BoundSql.Text.Blank
import BoundSql.Text.LetterCase
import Mathlib.Data.List.TakeWhile
import Mathlib.Tactic.NthRewrite
import Mathlib.Tactic.Use

/-!
# Trimming

Blanks around a text are trimmed off with those of the text. Trimming commutes with
the change of letter case, and with the cut at a character that is not blank: it
makes no difference whether the blanks in front of the cut are taken off before it
or after it.
-/

namespace BoundSql.Text

/-! ### Blanks around a text -/

theorem dropBlanks_eq_nil {bs : List Char} (h : ∀ b ∈ bs, isBlankChar b = true) :
  dropBlanks bs = []
  := List.dropWhile_eq_nil_iff.mpr h

theorem dropBlanksEnd_append {bs : List Char} (h : ∀ b ∈ bs, isBlankChar b = true)
    (cs : List Char) :
  dropBlanksEnd (cs ++ bs) = dropBlanksEnd cs
  := by
  have hreverse : ∀ b ∈ bs.reverse, isBlankChar b = true := by
    intro b hb
    apply h b (List.mem_reverse.mp hb)
  rw [dropBlanksEnd, List.reverse_append, List.dropWhile_append_of_pos hreverse, dropBlanksEnd]

/-- A text is what is left of it when the blanks at its end are taken off, and these. -/
theorem exists_append_blanks (cs : List Char) :
  ∃ bs, (∀ b ∈ bs, isBlankChar b = true) ∧ cs = dropBlanksEnd cs ++ bs
  := by
  use (cs.reverse.takeWhile isBlankChar).reverse
  constructor
  · intro b hb
    exact List.mem_takeWhile_imp (List.mem_reverse.mp hb)
  · rw [dropBlanksEnd, ← List.reverse_append, List.takeWhile_append_dropWhile,
      List.reverse_reverse]

theorem trimChars_surrounded {as bs : List Char} (ha : ∀ a ∈ as, isBlankChar a = true)
    (hb : ∀ b ∈ bs, isBlankChar b = true) (cs : List Char) :
  trimChars (as ++ cs ++ bs) = trimChars cs
  := by
  have hfront : dropBlanks (as ++ cs ++ bs) = dropBlanks (cs ++ bs) := by
    rw [dropBlanks, List.append_assoc, List.dropWhile_append_of_pos ha, dropBlanks]
  rw [trimChars, hfront, dropBlanks, List.dropWhile_append, ← dropBlanks, ← dropBlanks]
  split
  · next hempty =>
      rw [dropBlanks_eq_nil hb, trimChars, List.isEmpty_iff.mp hempty]
  · apply dropBlanksEnd_append hb

/-! ### Letter case -/

/-- No letter is blank. -/
theorem isBlankChar_of_letter {c : Char} (hlow : 65 ≤ c.toNat) (hhigh : c.toNat ≤ 122) :
  isBlankChar c = false
  := by
  rw [Bool.eq_false_iff, isBlankChar, Ne, inRuns_iff]
  rintro ⟨r, hr, hfirst, hlast⟩
  simp only [blankRuns, List.mem_cons, List.not_mem_nil, or_false] at hr
  rcases hr with rfl | rfl | rfl | rfl | rfl | rfl | rfl | rfl | rfl | rfl <;>
    simp only at hfirst hlast <;> omega

@[simp] theorem isBlankChar_toLower (c : Char) :
  isBlankChar c.toLower = isBlankChar c
  := by
  rcases toLower_cases c with h | ⟨hlow, hhigh, hval⟩
  · rw [h]
  · rw [isBlankChar_of_letter (by omega) (by omega), isBlankChar_of_letter hlow (by omega)]

/-- Trimming commutes with a map of characters that keeps blanks apart from the others. -/
theorem trimChars_map {f : Char → Char} (h : ∀ c, isBlankChar (f c) = isBlankChar c)
    (cs : List Char) :
  trimChars (cs.map f) = (trimChars cs).map f
  := by
  have hf : isBlankChar ∘ f = isBlankChar := funext h
  rw [trimChars, dropBlanks, List.dropWhile_map, hf, dropBlanksEnd, ← List.map_reverse,
    List.dropWhile_map, hf, ← List.map_reverse]
  rfl

/-! ### Cuts -/

section Cut

variable {p : Char → Bool} (hp : ∀ c, isBlankChar c = true → p c = true)
include hp

theorem takeWhile_dropBlanks (cs : List Char) :
  (dropBlanks cs).takeWhile p = dropBlanks (cs.takeWhile p)
  := by
  induction cs with
  | nil => rfl
  | cons c cs ih =>
      cases hc : isBlankChar c with
      | true => simpa [dropBlanks, hc, hp c hc] using ih
      | false =>
          rw [dropBlanks, List.dropWhile_cons_of_neg (by simp [hc]), List.takeWhile_cons]
          split
          · rw [dropBlanks, List.dropWhile_cons_of_neg (by simp [hc])]
          · rfl

theorem dropBlanksEnd_takeWhile (cs : List Char) :
  dropBlanksEnd ((dropBlanksEnd cs).takeWhile p) = dropBlanksEnd (cs.takeWhile p)
  := by
  obtain ⟨bs, hbs, hcs⟩ := exists_append_blanks cs
  have htake : bs.takeWhile p = bs := by
    rw [List.takeWhile_eq_self_iff]
    intro b hb
    apply hp b (hbs b hb)
  nth_rewrite 2 [hcs]
  rw [List.takeWhile_append]
  split
  · next hall =>
      rw [htake, dropBlanksEnd_append hbs,
        (List.takeWhile_prefix p).eq_of_length hall]
  · rfl

/-- The blanks at the ends may be taken off before the cut or after it. -/
theorem dropBlanksEnd_takeWhile_trimChars (cs : List Char) :
  dropBlanksEnd ((trimChars cs).takeWhile p) = trimChars (cs.takeWhile p)
  := by
  rw [trimChars, dropBlanksEnd_takeWhile hp, takeWhile_dropBlanks hp, trimChars]

end Cut

end BoundSql.Text
