import BoundSql.Calendar.Instant
import Mathlib.Data.List.TakeWhile
import Mathlib.Tactic.Use

/-!
# Colons in dates and times

What a form passes over has a colon exactly when the form asks for one. The forms with
a time ask for a colon and the forms of a date do not. So no text is both a date alone
and a date with a time, and a text that is a date denotes the midnight of the date.
-/

namespace BoundSql

open BoundSql.Text

/-! ### Passing over characters -/

/-- The rest comes behind a part of the text that has a colon exactly under the condition. -/
def Passes (colon : Prop) (cs rest : List Char) : Prop :=
  ∃ part, cs = part ++ rest ∧ (':' ∈ part ↔ colon)

namespace Passes

variable {colon colon' : Prop} {cs r r' : List Char}

theorem refl (cs : List Char) :
  Passes False cs cs
  := by
  use [], rfl
  simp

theorem trans (h : Passes colon cs r) (h' : Passes colon' r r') :
  Passes (colon ∨ colon') cs r'
  := by
  obtain ⟨part, rfl, hpart⟩ := h
  obtain ⟨part', rfl, hpart'⟩ := h'
  use part ++ part', (List.append_assoc _ _ _).symm
  rw [List.mem_append, hpart, hpart']

theorem congr (h : Passes colon cs r) (hiff : colon ↔ colon') :
  Passes colon' cs r
  := propext hiff ▸ h

/-- There are no colons before and after a part without them. -/
theorem trans_left (h : Passes False cs r) (h' : Passes colon r r') :
  Passes colon cs r'
  := (h.trans h').congr (by rw [false_or])

/-- A text that is passed over altogether has a colon under the condition. -/
theorem mem_iff (h : Passes colon cs []) :
  ':' ∈ cs ↔ colon
  := by
  obtain ⟨part, rfl, hpart⟩ := h
  rw [List.append_nil, hpart]

/-- A colon that is passed over is in the text. -/
theorem mem (h : Passes colon cs r) (hcolon : colon) :
  ':' ∈ cs
  := by
  obtain ⟨part, rfl, hpart⟩ := h
  apply List.mem_append_left _ (hpart.mpr hcolon)

/-- A colon behind what is passed over is in the text. -/
theorem mem_of_rest (h : Passes colon cs r) (hcolon : ':' ∈ r) :
  ':' ∈ cs
  := by
  obtain ⟨part, rfl, -⟩ := h
  apply List.mem_append_right _ hcolon

end Passes

theorem passes_cons (c : Char) (r : List Char) :
  Passes (c = ':') (c :: r) r
  := by
  use [c], rfl
  rw [List.mem_singleton, eq_comm]

theorem passes_cons_of_ne {c : Char} (h : c ≠ ':') (r : List Char) :
  Passes False (c :: r) r
  := (passes_cons c r).congr (iff_false_intro h)

/-- A part of a text in a class of characters has no colon when none is in the class. -/
theorem passes_dropWhile {p : Char → Bool} (h : p ':' = false) (cs : List Char) :
  Passes False cs (cs.dropWhile p)
  := by
  use cs.takeWhile p, List.takeWhile_append_dropWhile.symm
  rw [iff_false]
  intro hcolon
  have hclass := List.mem_takeWhile_imp hcolon
  rw [h] at hclass
  contradiction

theorem passes_dropBlanks (cs : List Char) :
  Passes False cs (dropBlanks cs)
  := passes_dropWhile (by decide) cs

/-! ### Numbers -/

theorem isDigit_of_mem_takeDigits {limit : Nat} {cs : List Char} {c : Char}
    (h : c ∈ (takeDigits limit cs).1) :
  c.isDigit = true
  := by
  induction cs generalizing limit with
  | nil => simp [takeDigits] at h
  | cons d r ih =>
      cases limit with
      | zero => contradiction
      | succ limit =>
          rw [takeDigits] at h
          split at h
          · next hdigit =>
              rcases List.mem_cons.mp h with rfl | h
              · apply hdigit
              · apply ih h
          · contradiction

theorem passes_takeDigits (limit : Nat) (cs : List Char) :
  Passes False cs (takeDigits limit cs).2
  := by
  use (takeDigits limit cs).1, (takeDigits_append limit cs).symm
  rw [iff_false]
  intro hcolon
  have hdigit := isDigit_of_mem_takeDigits hcolon
  contradiction

variable {cs r : List Char}

theorem passes_takeNumber? {limit n : Nat} (h : takeNumber? limit cs = some (n, r)) :
  Passes False cs r
  := by
  have hpasses := passes_takeDigits limit cs
  rw [takeNumber?] at h
  split at h
  · contradiction
  · next hdigits =>
      obtain ⟨-, rfl⟩ := Prod.mk.inj (Option.some.inj h)
      rw [hdigits] at hpasses
      apply hpasses

theorem passes_takeColumn? {width n : Nat} (h : takeColumn? width cs = some (n, r)) :
  Passes False cs r
  := by
  have hpasses := passes_takeDigits width cs
  simp only [takeColumn?] at h
  split at h
  · obtain ⟨-, rfl⟩ := Prod.mk.inj (Option.some.inj h)
    apply hpasses
  · contradiction

theorem passes_takeNanos? {n : Nat} (h : takeNanos? cs = some (n, r)) :
  Passes False cs r
  := by
  have hpasses := passes_takeDigits 9 cs
  rw [takeNanos?] at h
  split at h
  · contradiction
  · next hdigits =>
      obtain ⟨-, rfl⟩ := Prod.mk.inj (Option.some.inj h)
      rw [hdigits] at hpasses
      apply hpasses.trans_left (passes_dropWhile (by decide) _)

theorem passes_takeYear? {n : Int} (h : takeYear? cs = some (n, r)) :
  Passes False cs r
  := by
  unfold takeYear? at h
  split at h
  all_goals
    obtain ⟨⟨m, r'⟩, htake, hyear⟩ := Option.map_eq_some_iff.mp h
    obtain ⟨-, rfl⟩ := Prod.mk.inj hyear
    have hdigits := passes_takeNumber? htake
  · apply (passes_cons_of_ne (by decide) _).trans_left hdigits
  · apply (passes_cons_of_ne (by decide) _).trans_left hdigits
  · apply hdigits

/-! ### Forms -/

/-- An item of a form passes over a colon when it is one. -/
theorem passes_item {item : PatternItem} {f f' : ClockFields}
    (h : item.take? f cs = some (f', r)) :
  Passes (item = .literal ':') cs r
  := by
  cases item with
  | year =>
      obtain ⟨⟨n, r'⟩, htake, hfield⟩ := Option.map_eq_some_iff.mp h
      obtain ⟨-, rfl⟩ := Prod.mk.inj hfield
      apply ((passes_dropBlanks cs).trans_left (passes_takeYear? htake)).congr
      simp
  | month | day | hour | minute | second =>
      obtain ⟨⟨n, r'⟩, htake, hfield⟩ := Option.map_eq_some_iff.mp h
      obtain ⟨-, rfl⟩ := Prod.mk.inj hfield
      apply ((passes_dropBlanks cs).trans_left (passes_takeNumber? htake)).congr
      simp
  | fraction =>
      simp only [PatternItem.take?] at h
      split at h
      · obtain ⟨⟨n, r'⟩, htake, hfield⟩ := Option.map_eq_some_iff.mp h
        obtain ⟨-, rfl⟩ := Prod.mk.inj hfield
        apply Passes.congr _ (iff_of_false id (by simp))
        apply (passes_cons_of_ne (by decide) _).trans_left (passes_takeNanos? htake)
      · obtain ⟨-, rfl⟩ := Prod.mk.inj (Option.some.inj h)
        apply (Passes.refl cs).congr
        simp
  | literal c =>
      simp only [PatternItem.take?] at h
      split at h
      · split at h
        · next hchar =>
            obtain ⟨-, rfl⟩ := Prod.mk.inj (Option.some.inj h)
            apply (passes_cons _ _).congr
            rw [hchar, PatternItem.literal.injEq]
        · contradiction
      · contradiction
  | space =>
      obtain ⟨-, rfl⟩ := Prod.mk.inj (Option.some.inj h)
      apply (passes_dropBlanks cs).congr
      simp

/-- A form passes over a colon when it has one. -/
theorem passes_pattern {items : List PatternItem} {f f' : ClockFields}
    (h : takePattern? items f cs = some (f', r)) :
  Passes (.literal ':' ∈ items) cs r
  := by
  induction items generalizing f cs with
  | nil =>
      obtain ⟨-, rfl⟩ := Prod.mk.inj (Option.some.inj h)
      apply (Passes.refl cs).congr
      simp
  | cons item items ih =>
      obtain ⟨⟨g, r'⟩, hitem, hitems⟩ := Option.bind_eq_some_iff.mp h
      apply ((passes_item hitem).trans (ih hitems)).congr
      rw [List.mem_cons, eq_comm]

/-- A text that is read by a form has a colon exactly when the form has one. -/
theorem colon_mem_iff_of_readPattern? {items : List PatternItem} {f : ClockFields}
    (h : readPattern? items cs = some f) :
  ':' ∈ cs ↔ .literal ':' ∈ items
  := by
  obtain ⟨⟨g, r⟩, htake, hrest⟩ := Option.bind_eq_some_iff.mp h
  simp only at hrest
  split at hrest
  · next hempty =>
      rw [List.isEmpty_iff] at hempty
      subst hempty
      apply (passes_pattern htake).mem_iff
  · contradiction

/-- There is no colon in a date. -/
theorem colon_not_mem_of_date {d : Date} (h : Date.ofChars? cs = some d) :
  ':' ∉ cs
  := by
  have hforms : ∀ items ∈ Pattern.dates, .literal ':' ∉ items := by decide
  obtain ⟨items, hitems, hform⟩ := List.exists_of_findSome?_eq_some h
  obtain ⟨f, hread, -⟩ := Option.bind_eq_some_iff.mp hform
  rw [colon_mem_iff_of_readPattern? hread]
  apply hforms items hitems

/-- There is a colon in a date with a time. -/
theorem colon_mem_of_timestamp {t : Timestamp} (h : Timestamp.ofChars? cs = some t) :
  ':' ∈ cs
  := by
  have hforms : ∀ items ∈ Pattern.timestamps, .literal ':' ∈ items := by decide
  obtain ⟨items, hitems, hform⟩ := List.exists_of_findSome?_eq_some h
  obtain ⟨f, hread, -⟩ := Option.bind_eq_some_iff.mp hform
  rw [colon_mem_iff_of_readPattern? hread]
  apply hforms items hitems

/-! ### Instants -/

theorem passes_takeChar? {c : Char} (h : takeChar? c cs = some r) :
  Passes (c = ':') cs r
  := by
  cases cs with
  | nil => contradiction
  | cons d cs =>
      rw [takeChar?] at h
      split at h
      · next hchar =>
          obtain rfl := Option.some.inj h
          rw [← hchar]
          apply passes_cons
      · contradiction

/-- There is a colon in an instant with an offset. -/
theorem colon_mem_of_offset {t : Timestamp} (h : Instant.ofOffsetChars? cs = some t) :
  ':' ∈ cs
  := by
  simp only [Instant.ofOffsetChars?, Option.bind_eq_bind, Option.bind_eq_some_iff, Prod.exists] at h
  obtain ⟨_, _, hyear, _, hhyphen, _, _, hmonth, _, hhyphen', _, _, hday, _, hseparator, _, _,
    hhour, _, hcolon, -⟩ := h
  -- the colon between the hour and the minute
  apply (passes_takeColumn? hyear).mem_of_rest
  apply (passes_takeChar? hhyphen).mem_of_rest
  apply (passes_takeColumn? hmonth).mem_of_rest
  apply (passes_takeChar? hhyphen').mem_of_rest
  apply (passes_takeColumn? hday).mem_of_rest
  have hbehind := (passes_takeColumn? hhour).mem_of_rest ((passes_takeChar? hcolon).mem rfl)
  rcases Option.or_eq_some_iff.mp hseparator with hseparator | ⟨-, hseparator⟩
  · apply (passes_takeChar? hseparator).mem_of_rest hbehind
  rcases Option.or_eq_some_iff.mp hseparator with hseparator | ⟨-, hseparator⟩
  · apply (passes_takeChar? hseparator).mem_of_rest hbehind
  · apply (passes_takeChar? hseparator).mem_of_rest hbehind

namespace Instant

/-- A date alone denotes its midnight. -/
theorem ofChars?_of_date {d : Date} (h : Date.ofChars? cs = some d) :
  ofChars? cs = some d.midnight
  := by
  have hcolon := colon_not_mem_of_date h
  have hoffset : ofOffsetChars? cs = none := by
    rw [Option.eq_none_iff_forall_ne_some]
    intro t ht
    apply hcolon (colon_mem_of_offset ht)
  have htime : Timestamp.ofChars? cs = none := by
    rw [Option.eq_none_iff_forall_ne_some]
    intro t ht
    apply hcolon (colon_mem_of_timestamp ht)
  rw [ofChars?, hoffset, htime, h]
  rfl

/-- The day of a text is that of the instant that it denotes. -/
theorem ofChars?_date (cs : List Char) :
  (Date.ofChars? cs).or ((ofChars? cs).map Timestamp.date) = (ofChars? cs).map Timestamp.date
  := by
  cases h : Date.ofChars? cs with
  | none => rfl
  | some d =>
      rw [ofChars?_of_date h]
      rfl

end Instant

end BoundSql
