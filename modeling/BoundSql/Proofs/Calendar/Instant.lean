import BoundSql.Proofs.Calendar.Reading

/-!
# Reading instants

A timestamp is read as the instant in UTC. With the offset of UTC behind it, it
is an instant only when its year has four digits and no sign: no other form has
an offset.
-/

namespace BoundSql

open BoundSql.Text

namespace Timestamp

/-- The year is written with four digits and no sign. -/
def HasPlainYear (t : Timestamp) : Prop :=
  0 ≤ t.date.civil.year ∧ t.date.civil.year ≤ 9999

instance (t : Timestamp) : Decidable t.HasPlainYear :=
  inferInstanceAs (Decidable (_ ∧ _))

theorem yearChars_of_hasPlainYear {t : Timestamp} (h : t.HasPlainYear) :
  Civil.yearChars t.date.civil.year = padded 4 t.date.civil.year.natAbs
  := by
  rw [Civil.yearChars, if_neg (by have := h.1; omega), if_neg (by have := h.2; omega)]

/-- A year that is not plain is written with a sign. -/
theorem stopsDigits_yearChars {t : Timestamp} (h : ¬ t.HasPlainYear) (rest : List Char) :
  StopsDigits (Civil.yearChars t.date.civil.year ++ rest)
  := by
  rw [HasPlainYear] at h
  rw [Civil.yearChars]
  split
  · rintro c ⟨⟩
    decide
  · rw [if_pos (by omega)]
    rintro c ⟨⟩
    decide

/-- A timestamp stays where it is at no offset. -/
theorem minus?_zero (t : Timestamp) :
  t.minus? 0 = some t
  := by
  have hsecond := t.time.second_lt
  have hday : (t.unixSecond - 0) / 86400 = t.date.day := by
    simp only [unixSecond]
    omega
  have hrest : ((t.unixSecond - 0) % 86400).toNat = t.time.second := by
    simp only [unixSecond]
    omega
  rw [minus?, ofUnix?, hday, hrest, TimeOfDay.ofSecond?_of_eq rfl rfl, Date.ofDay?,
    dif_pos ⟨t.date.first_le, t.date.le_last⟩]

end Timestamp

namespace Instant

/-- A column of digits is found in front of what is read next. -/
theorem takeColumn?_padded_bind {α : Type} (width : Nat) {n : Nat} (hwidth : 0 < width)
    (h : n < 10 ^ width) (rest : List Char) (next : Nat × List Char → Option α) :
  (takeColumn? width (padded width n ++ rest) >>= next) = next (n, rest)
  := by
  rw [takeColumn?_padded width hwidth h]
  rfl

theorem takeChar?_cons_bind {α : Type} (c : Char) (rest : List Char)
    (next : List Char → Option α) :
  (takeChar? c (c :: rest) >>= next) = next rest
  := by
  rw [takeChar?, if_pos rfl]
  rfl

theorem takeChar?_cons_or_bind {α : Type} (c : Char) (rest : List Char)
    (other : Option (List Char)) (next : List Char → Option α) :
  ((takeChar? c (c :: rest)).or other >>= next) = next rest
  := by
  rw [takeChar?, if_pos rfl]
  rfl

/-- A timestamp with a plain year is read with the offset behind it. -/
theorem ofOffsetChars?_of_hasPlainYear {t : Timestamp} (h : t.HasPlainYear) {rest : List Char}
    (hrest : StopsTime rest) :
  ofOffsetChars? (t.chars 'T' ++ rest) = (offset? rest).bind t.asWritten.minus?
  := by
  obtain ⟨hmonth, hday⟩ := t.date.month_lt_and_day_lt
  obtain ⟨hhour, hminute, hsecond⟩ := t.time.clock_lt
  have hyear : t.date.civil.year.natAbs < 10 ^ 4 := by
    obtain ⟨hlow, hhigh⟩ := h
    omega
  have hcast : (t.date.civil.year.natAbs : Int) = t.date.civil.year := Int.natAbs_of_nonneg h.1
  have hnano : t.time.nano % TimeOfDay.billion < TimeOfDay.billion := Nat.mod_lt _ (by decide)
  have hfields := t.timestamp?_fields
  rw [Timestamp.fields] at hfields
  have htext : t.chars 'T' ++ rest
      = padded 4 t.date.civil.year.natAbs ++ '-' :: (padded 2 t.date.civil.month
        ++ '-' :: (padded 2 t.date.civil.day ++ 'T' :: (padded 2 (t.time.second / 3600)
        ++ ':' :: (padded 2 (t.time.second / 60 % 60) ++ ':' :: (padded 2 t.time.writtenSecond
        ++ (TimeOfDay.fractionChars (t.time.nano % TimeOfDay.billion) ++ rest)))))) := by
    rw [Timestamp.chars_append, Civil.chars, Timestamp.yearChars_of_hasPlainYear h,
      TimeOfDay.chars]
    simp only [List.append_assoc, List.cons_append]
  rw [htext, ofOffsetChars?]
  -- downwards: a column is found before anything behind it is looked at
  simp only [↓takeChar?_cons_bind, ↓takeColumn?_padded_bind 4 (by decide) hyear,
    ↓takeColumn?_padded_bind 2 (by decide) hmonth, ↓takeColumn?_padded_bind 2 (by decide) hday,
    ↓takeChar?_cons_or_bind,
    ↓takeColumn?_padded_bind 2 (by decide) (Nat.lt_trans hhour (by decide)),
    ↓takeColumn?_padded_bind 2 (by decide) (Nat.lt_trans hminute (by decide)),
    ↓takeColumn?_padded_bind 2 (by decide) (Nat.lt_of_le_of_lt hsecond (by decide)),
    fraction?_fractionChars hnano hrest, hcast, Option.bind_eq_bind, Option.bind_some, hfields]

/-- A timestamp whose year carries a sign is not read together with an offset. -/
theorem ofOffsetChars?_of_not_hasPlainYear {t : Timestamp} (h : ¬ t.HasPlainYear)
    (rest : List Char) :
  ofOffsetChars? (t.chars 'T' ++ rest) = none
  := by
  have hstops := Timestamp.stopsDigits_yearChars h
  rw [ofOffsetChars?, Timestamp.chars_append, Civil.chars]
  simp only [List.append_assoc, takeColumn?_of_stopsDigits (hstops _) (by decide : 0 < 4)]
  rfl

/-- A written timestamp is read as it is written. -/
theorem ofChars?_chars (t : Timestamp) :
  ofChars? (t.chars 'T') = some t.asWritten
  := by
  have hoffset : ofOffsetChars? (t.chars 'T') = none := by
    rw [← List.append_nil (t.chars 'T')]
    by_cases h : t.HasPlainYear
    · rw [ofOffsetChars?_of_hasPlainYear h stopsTime_nil]
      rfl
    · apply ofOffsetChars?_of_not_hasPlainYear h
  rw [ofChars?, hoffset, Timestamp.ofChars?_chars, Option.none_or, Option.some_or]

/-! ### Offsets -/

/-- The offset of UTC. -/
def zeroOffset : List Char :=
  ['+', '0', '0', ':', '0', '0']

theorem stopsTime_zeroOffset :
  StopsTime zeroOffset
  := by
  rintro c ⟨⟩
  decide

/-- A pattern that leaves something of a text does not find the whole of it. -/
theorem readPattern?_of_left {items : List PatternItem} {cs : List Char}
    (h : ∀ f rest, takePattern? items {} cs = some (f, rest) → rest ≠ []) :
  readPattern? items cs = none
  := by
  rw [readPattern?]
  cases htake : takePattern? items {} cs with
  | none => rfl
  | some found =>
      have hrest := h found.1 found.2 htake
      simp [hrest]

/-- A date is not written with slashes. -/
theorem takePattern?_slashes (c : Civil) (items : List PatternItem) (f : ClockFields)
    (rest : List Char) :
  takePattern? (Pattern.date '/' ++ items) f (c.chars ++ rest) = none
  := by
  simp only [Pattern.date, Civil.chars, List.append_assoc, List.cons_append, takePattern?,
    PatternItem.take?, dropBlanks_yearChars, takeYear?_yearChars c.year (stopsDigits_hyphen _),
    Option.map_some, Option.bind_some]
  rfl

/-- A date is not written without separators. -/
theorem takePattern?_compactDate (c : Civil) (f : ClockFields) (rest : List Char) :
  takePattern? Pattern.compactDate f (c.chars ++ rest) = none
  := by
  simp only [Pattern.compactDate, Civil.chars, List.append_assoc, List.cons_append, takePattern?,
    PatternItem.take?, dropBlanks_yearChars, takeYear?_yearChars c.year (stopsDigits_hyphen _),
    Option.map_some, Option.bind_some]
  rfl

/-- Between the date and the time is no space. -/
theorem takePattern?_space (items : List PatternItem) (f : ClockFields) (rest : List Char) :
  takePattern? (.space :: (Pattern.minutes ++ items)) f ('T' :: rest) = none
  := by
  have hstops : StopsDigits ('T' :: rest) := by
    rintro c ⟨⟩
    decide
  simp only [Pattern.minutes, List.cons_append, takePattern?, PatternItem.take?,
    dropBlanks_cons (by decide : isBlankChar 'T' = false), takeNumber?_of_stopsDigits hstops,
    Option.map_none, Option.bind_some, Option.bind_none]

variable (t : Timestamp)

/-- No form of a timestamp finds an offset. -/
theorem ofChars?_timestamp_zeroOffset :
  Timestamp.ofChars? (t.chars 'T' ++ zeroOffset) = none
  := by
  obtain ⟨hmonth, hday⟩ := t.date.month_lt_and_day_lt
  rw [Timestamp.ofChars?, List.findSome?_eq_none_iff]
  intro items hitems
  rw [readPattern?_of_left]
  · rfl
  · intro f rest htake
    simp only [Pattern.timestamps, List.mem_cons, List.not_mem_nil, or_false] at hitems
    rcases hitems with rfl | rfl | rfl | rfl | rfl | rfl
    · rw [t.takePattern?_chars stopsTime_zeroOffset] at htake
      obtain ⟨-, rfl⟩ := Prod.mk.inj (Option.some.inj htake)
      apply List.cons_ne_nil
    · rw [t.chars_append, takePattern?_date hmonth hday, Pattern.seconds, takePattern?_space]
        at htake
      contradiction
    · rw [t.chars_append, takePattern?_date hmonth hday, takePattern?, take?_literal,
        ← List.append_nil Pattern.minutes] at htake
      simp only [Option.bind_some, takePattern?_minutes] at htake
      obtain ⟨-, rfl⟩ := Prod.mk.inj (Option.some.inj htake)
      apply List.cons_ne_nil
    · rw [t.chars_append, takePattern?_date hmonth hday, ← List.append_nil Pattern.minutes,
        takePattern?_space] at htake
      contradiction
    · rw [t.chars_append, takePattern?_slashes] at htake
      contradiction
    · rw [t.chars_append, takePattern?_slashes] at htake
      contradiction

/-- No form of a date finds a time. -/
theorem ofChars?_date_zeroOffset :
  Date.ofChars? (t.chars 'T' ++ zeroOffset) = none
  := by
  obtain ⟨hmonth, hday⟩ := t.date.month_lt_and_day_lt
  rw [Date.ofChars?, List.findSome?_eq_none_iff]
  intro items hitems
  rw [readPattern?_of_left]
  · rfl
  · intro f rest htake
    rw [t.chars_append] at htake
    simp only [Pattern.dates, List.mem_cons, List.not_mem_nil, or_false] at hitems
    rcases hitems with rfl | rfl | rfl
    · rw [← List.append_nil (Pattern.date '-'), takePattern?_date hmonth hday] at htake
      obtain ⟨-, rfl⟩ := Prod.mk.inj (Option.some.inj htake)
      apply List.cons_ne_nil
    · rw [← List.append_nil (Pattern.date '/'), takePattern?_slashes] at htake
      contradiction
    · rw [takePattern?_compactDate] at htake
      contradiction

/-- A written instant is read as it is written when its year is plain; else it is not read. -/
theorem ofChars?_zeroOffset :
  ofChars? (t.chars 'T' ++ zeroOffset) = if t.HasPlainYear then some t.asWritten else none
  := by
  rw [ofChars?, ofChars?_timestamp_zeroOffset, ofChars?_date_zeroOffset]
  split
  · next h =>
      rw [ofOffsetChars?_of_hasPlainYear h stopsTime_zeroOffset]
      have hoffset : offset? zeroOffset = some 0 := by rfl
      rw [hoffset, Option.bind_some, Timestamp.minus?_zero, Option.some_or]
  · next h =>
      rw [ofOffsetChars?_of_not_hasPlainYear h]
      rfl

end Instant

end BoundSql
