import BoundSql.Calendar.Instant
import BoundSql.Proofs.Calendar.Civil
import BoundSql.Proofs.Text.Numeral

/-!
# Reading dates and times

The forms of dates and times find in a written date and time what was written.
A leap second that is not the last of its minute is found as the second after it.
-/

namespace BoundSql

open BoundSql.Text

/-! ### Numbers -/

theorem takeNumber?_of_numeral {ds rest : List Char} {limit : Nat} (hds : Numeral ds)
    (hlength : ds.length ≤ limit) (hrest : ds.length = limit ∨ StopsDigits rest) :
  takeNumber? limit (ds ++ rest) = some (digitsValue ds, rest)
  := by
  obtain ⟨c, ds, rfl⟩ := List.exists_cons_of_ne_nil hds.nonempty
  rw [takeNumber?, takeDigits_append_of_digits hds.digits hlength hrest]

/-- A number in a column is taken whatever follows the column. -/
theorem takeNumber?_padded (width : Nat) {n : Nat} (hwidth : 0 < width) (h : n < 10 ^ width)
    (rest : List Char) :
  takeNumber? width (padded width n ++ rest) = some (n, rest)
  := by
  have hlength := length_padded hwidth h
  rw [takeNumber?_of_numeral (numeral_padded width n) hlength.le (.inl hlength),
    digitsValue_padded]

theorem takeColumn?_padded (width : Nat) {n : Nat} (hwidth : 0 < width) (h : n < 10 ^ width)
    (rest : List Char) :
  takeColumn? width (padded width n ++ rest) = some (n, rest)
  := by
  have hlength := length_padded hwidth h
  rw [takeColumn?, takeDigits_append_of_digits (numeral_padded width n).digits hlength.le
    (.inl hlength)]
  simp only [hlength, if_true, digitsValue_padded]

theorem takeNumber?_of_stopsDigits {rest : List Char} (h : StopsDigits rest) (limit : Nat) :
  takeNumber? limit rest = none
  := by
  rw [takeNumber?, takeDigits_of_stopsDigits h]

theorem takeColumn?_of_stopsDigits {rest : List Char} (h : StopsDigits rest) {width : Nat}
    (hwidth : 0 < width) :
  takeColumn? width rest = none
  := by
  rw [takeColumn?, takeDigits_of_stopsDigits h]
  simp only [List.length_nil, if_neg hwidth.ne]

/-! ### Years -/

theorem unblank_yearChars (year : Int) :
  Unblank (Civil.yearChars year)
  := by
  have hdigits := (numeral_padded 4 year.natAbs).unblank
  rw [Civil.yearChars]
  split
  · apply unblank_cons.mpr ⟨by decide, hdigits⟩
  · split
    · apply unblank_cons.mpr ⟨by decide, hdigits⟩
    · apply hdigits

theorem takeYear?_of_numeral {ds : List Char} (h : Numeral ds) (rest : List Char) :
  takeYear? (ds ++ rest) = (takeNumber? 4 (ds ++ rest)).map fun (n, rest) => ((n : Int), rest)
  := by
  obtain ⟨c, ds, rfl⟩ := List.exists_cons_of_ne_nil h.nonempty
  have hdigit := h.digits c List.mem_cons_self
  rw [List.cons_append, takeYear?]
  · rintro r ⟨⟩
    contradiction
  · rintro r ⟨⟩
    contradiction

/-- A year is taken when no digit follows. -/
theorem takeYear?_yearChars (year : Int) {rest : List Char} (hrest : StopsDigits rest) :
  takeYear? (Civil.yearChars year ++ rest) = some (year, rest)
  := by
  have hds := numeral_padded 4 year.natAbs
  have hsigned : takeNumber? (padded 4 year.natAbs ++ rest).length (padded 4 year.natAbs ++ rest)
      = some (year.natAbs, rest) := by
    rw [takeNumber?_of_numeral hds (by simp) (.inr hrest), digitsValue_padded]
  rw [Civil.yearChars]
  split
  · next hneg =>
      rw [List.cons_append, takeYear?, hsigned]
      simp only [Option.map_some, Option.some.injEq, Prod.mk.injEq, and_true]
      omega
  · split
    · next hlarge =>
        rw [List.cons_append, takeYear?, hsigned]
        simp only [Option.map_some, Option.some.injEq, Prod.mk.injEq, and_true]
        omega
    · next hneg hlarge =>
        have hlt : year.natAbs < 10 ^ 4 := by omega
        rw [takeYear?_of_numeral hds, takeNumber?_padded 4 (by decide) hlt]
        simp only [Option.map_some, Option.some.injEq, Prod.mk.injEq, and_true]
        omega

/-- There is no blank in front of a year. -/
theorem dropBlanks_yearChars (year : Int) (rest : List Char) :
  dropBlanks (Civil.yearChars year ++ rest) = Civil.yearChars year ++ rest
  := by
  apply (unblank_yearChars year).dropBlanks_append
  rw [Civil.yearChars]
  split
  · apply List.cons_ne_nil
  · split
    · apply List.cons_ne_nil
    · apply (numeral_padded 4 year.natAbs).nonempty

/-! ### Dates -/

/-- A hyphen is no digit. -/
theorem stopsDigits_hyphen (rest : List Char) :
  StopsDigits ('-' :: rest)
  := by
  rintro c ⟨⟩
  decide

/-- The year, the month and the day of a date are found whatever follows it. -/
theorem takePattern?_date {c : Civil} (hmonth : c.month < 100) (hday : c.day < 100)
    (items : List PatternItem) (f : ClockFields) (rest : List Char) :
  takePattern? (Pattern.date '-' ++ items) f (c.chars ++ rest)
    = takePattern? items { f with year := c.year, month := c.month, day := c.day } rest
  := by
  simp only [Pattern.date, Civil.chars, List.append_assoc, List.cons_append, List.nil_append,
    takePattern?, PatternItem.take?, dropBlanks_yearChars,
    takeYear?_yearChars c.year (stopsDigits_hyphen _), dropBlanks_padded,
    takeNumber?_padded 2 (by decide) hmonth,
    takeNumber?_padded 2 (by decide) hday, Option.map_some, Option.bind_some, if_true]

/-! ### Times of day -/

/-- Behind a time of day neither a digit nor a point follows. -/
def StopsTime (rest : List Char) : Prop :=
  ∀ c ∈ rest.head?, c.isDigit = false ∧ c ≠ '.'

theorem stopsTime_nil :
  StopsTime []
  := by
  intro c hc
  contradiction

theorem StopsTime.stopsDigits {rest : List Char} (h : StopsTime rest) :
  StopsDigits rest
  := by
  intro c hc
  apply (h c hc).1

theorem takeNanos?_padded (width : Nat) {n : Nat} (hwidth : 0 < width) (hwidth' : width ≤ 9)
    (h : n < 10 ^ width) {rest : List Char} (hrest : StopsDigits rest) :
  takeNanos? (padded width n ++ rest) = some (n * 10 ^ (9 - width), rest)
  := by
  have hds := numeral_padded width n
  have hlength := length_padded hwidth h
  have htake := takeDigits_append_of_digits hds.digits (hlength.trans_le hwidth') (.inr hrest)
  have hvalue := digitsValue_padded width n
  generalize padded width n = ds at *
  obtain ⟨c, ds, rfl⟩ := List.exists_cons_of_ne_nil hds.nonempty
  rw [takeNanos?, htake]
  simp only [hvalue, hlength, dropWhile_of_stopsDigits hrest, Nat.pow_eq]

/-- The fraction of a second is found when the time ends behind it. -/
theorem fraction?_fractionChars {n : Nat} (h : n < TimeOfDay.billion) {rest : List Char}
    (hrest : StopsTime rest) :
  Instant.fraction? (TimeOfDay.fractionChars n ++ rest) = some (n, rest)
  := by
  rw [TimeOfDay.billion] at h
  rw [TimeOfDay.fractionChars]
  split
  · next hzero =>
      rw [List.nil_append, Instant.fraction?, hzero]
      rintro r rfl
      apply (hrest '.' rfl).2 rfl
  · split
    · rw [List.cons_append, Instant.fraction?,
        takeNanos?_padded 3 (by decide) (by decide) (by omega) hrest.stopsDigits]
      congr 2
      omega
    · split
      · rw [List.cons_append, Instant.fraction?,
          takeNanos?_padded 6 (by decide) (by decide) (by omega) hrest.stopsDigits]
        congr 2
        omega
      · rw [List.cons_append, Instant.fraction?,
          takeNanos?_padded 9 (by decide) (by decide) (by omega) hrest.stopsDigits]
        congr 2
        omega

/-- A pattern finds the fraction of a second as an instant does. -/
theorem take?_fraction {f : ClockFields} (h : f.nano = 0) (cs : List Char) :
  PatternItem.take? .fraction f cs
    = (Instant.fraction? cs).map fun (n, r) => ({ f with nano := n }, r)
  := by
  have hf : { f with nano := 0 } = f := by rw [← h]
  simp only [PatternItem.take?]
  split
  · rfl
  · next hother =>
      rw [Instant.fraction?, Option.map_some, hf]
      apply hother

theorem take?_second {n : Nat} (h : n < 100) (f : ClockFields) (rest : List Char) :
  PatternItem.take? .second f (padded 2 n ++ rest) = some ({ f with second := n }, rest)
  := by
  simp only [PatternItem.take?, dropBlanks_padded, takeNumber?_padded 2 (by decide) h,
    Option.map_some]

theorem take?_literal (c : Char) (f : ClockFields) (rest : List Char) :
  PatternItem.take? (.literal c) f (c :: rest) = some (f, rest)
  := if_pos rfl

namespace TimeOfDay

theorem clock_lt (t : TimeOfDay) :
  t.second / 3600 < 24 ∧ t.second / 60 % 60 < 60 ∧ t.writtenSecond ≤ 60
  := by
  have hsecond := t.second_lt
  have hnano := t.nano_lt
  simp only [writtenSecond, billion] at *
  omega

/-- The time as it is written: a leap second that is not the last of its minute is written as the
second after it. -/
def asWritten (t : TimeOfDay) : TimeOfDay :=
  if h : billion ≤ t.nano ∧ t.second % 60 ≠ 59 then
    { second := t.second + 1
      nano := t.nano - billion
      second_lt := by
        have := t.second_lt
        omega
      nano_lt := Nat.lt_of_le_of_lt (Nat.sub_le _ _) t.nano_lt }
  else t

/-- A leap second is the last of its minute. -/
def EndsMinute (t : TimeOfDay) : Prop :=
  billion ≤ t.nano → t.second % 60 = 59

instance (t : TimeOfDay) : Decidable t.EndsMinute :=
  inferInstanceAs (Decidable (_ → _))

theorem asWritten_eq_iff (t : TimeOfDay) :
  t.asWritten = t ↔ t.EndsMinute
  := by
  rw [asWritten, EndsMinute]
  split
  · next h =>
      constructor
      · intro heq
        have hsecond := congrArg second heq
        simp only at hsecond
        omega
      · intro hends
        cases h.2 (hends h.1)
  · next h =>
      constructor
      · intro _ hleap
        by_contra hne
        apply h ⟨hleap, hne⟩
      · intro _
        rfl

theorem ofSecond?_of_eq {t : TimeOfDay} {second nano : Nat} (hsecond : second = t.second)
    (hnano : nano = t.nano) :
  ofSecond? second nano = some t
  := by
  rw [hsecond, hnano, ofSecond?, dif_pos ⟨t.second_lt, t.nano_lt⟩]

/-- The numbers of a written time are those of the time as it is written. -/
theorem ofClock?_written (t : TimeOfDay) :
  ofClock? (t.second / 3600) (t.second / 60 % 60) t.writtenSecond (t.nano % billion)
    = some t.asWritten
  := by
  have hnano := t.nano_lt
  have hbillion : billion = 1000000000 := rfl
  have hwritten : t.writtenSecond = t.second % 60 + t.nano / 1000000000 := rfl
  have hrest : t.nano % billion = t.nano % 1000000000 := rfl
  obtain ⟨hhour, hminute, hsecond⟩ := t.clock_lt
  rw [hrest, ofClock?, if_pos ⟨hhour, hminute, hsecond, by omega⟩]
  split
  · -- second 60 is written at the end of a minute only
    have hends : t.asWritten = t := by
      rw [asWritten_eq_iff]
      intro _
      omega
    rw [hends]
    apply ofSecond?_of_eq
    · omega
    · omega
  · by_cases hleap : billion ≤ t.nano ∧ t.second % 60 ≠ 59
    · rw [asWritten, dif_pos hleap]
      apply ofSecond?_of_eq
      · simp only
        omega
      · simp only
        omega
    · rw [asWritten, dif_neg hleap]
      apply ofSecond?_of_eq
      · omega
      · omega

end TimeOfDay

/-- The hour and the minute are found whatever follows the minute. -/
theorem takePattern?_minutes (t : TimeOfDay) (items : List PatternItem) (f : ClockFields)
    (rest : List Char) :
  takePattern? (Pattern.minutes ++ items) f (t.chars ++ rest)
    = takePattern? items { f with hour := t.second / 3600, minute := t.second / 60 % 60 }
      (':' :: (padded 2 t.writtenSecond ++ (TimeOfDay.fractionChars (t.nano % TimeOfDay.billion)
        ++ rest)))
  := by
  obtain ⟨hhour, hminute, -⟩ := t.clock_lt
  simp only [Pattern.minutes, TimeOfDay.chars, List.append_assoc, List.cons_append,
    List.nil_append, takePattern?, PatternItem.take?, dropBlanks_padded,
    takeNumber?_padded 2 (by decide) (Nat.lt_trans hhour (by decide)),
    takeNumber?_padded 2 (by decide) (Nat.lt_trans hminute (by decide)), Option.map_some,
    Option.bind_some, if_true]

/-- The whole time is found when it ends. -/
theorem takePattern?_seconds (t : TimeOfDay) {f : ClockFields} (hf : f.nano = 0)
    {rest : List Char} (hrest : StopsTime rest) :
  takePattern? Pattern.seconds f (t.chars ++ rest)
    = some ({ f with hour := t.second / 3600, minute := t.second / 60 % 60,
                     second := t.writtenSecond, nano := t.nano % TimeOfDay.billion }, rest)
  := by
  have hsecond := Nat.lt_of_le_of_lt t.clock_lt.2.2 (by decide : 60 < 100)
  have hnano : t.nano % TimeOfDay.billion < TimeOfDay.billion := Nat.mod_lt _ (by decide)
  rw [Pattern.seconds, takePattern?_minutes]
  simp only [takePattern?, take?_literal, take?_second hsecond, Option.bind_some]
  rw [take?_fraction, fraction?_fractionChars hnano hrest]
  · rfl
  · apply hf

/-! ### Timestamps -/

namespace Timestamp

/-- The timestamp as it is written. -/
def asWritten (t : Timestamp) : Timestamp :=
  ⟨t.date, t.time.asWritten⟩

theorem asWritten_eq_iff (t : Timestamp) :
  t.asWritten = t ↔ t.time.EndsMinute
  := by
  rw [← t.time.asWritten_eq_iff, asWritten]
  constructor
  · apply congrArg time
  · intro h
    rw [h]

/-- What is found in a written timestamp. -/
def fields (t : Timestamp) : ClockFields where
  year := t.date.civil.year
  month := t.date.civil.month
  day := t.date.civil.day
  hour := t.time.second / 3600
  minute := t.time.second / 60 % 60
  second := t.time.writtenSecond
  nano := t.time.nano % TimeOfDay.billion

theorem timestamp?_fields (t : Timestamp) :
  t.fields.timestamp? = some t.asWritten
  := by
  have hdate : t.fields.date? = some t.date := t.date.ofCivil?_civil
  have htime := t.time.ofClock?_written
  rw [ClockFields.timestamp?, hdate]
  simp only [fields, htime, asWritten]

theorem chars_append (separator : Char) (t : Timestamp) (rest : List Char) :
  t.chars separator ++ rest = t.date.civil.chars ++ (separator :: (t.time.chars ++ rest))
  := by
  rw [chars, List.append_assoc, List.cons_append]

/-- Everything is found in a written timestamp when it ends. -/
theorem takePattern?_chars (t : Timestamp) {rest : List Char} (hrest : StopsTime rest) :
  takePattern? (Pattern.date '-' ++ .literal 'T' :: Pattern.seconds) {} (t.chars 'T' ++ rest)
    = some (t.fields, rest)
  := by
  obtain ⟨hmonth, hday⟩ := t.date.month_lt_and_day_lt
  rw [chars_append, takePattern?_date hmonth hday]
  simp only [takePattern?, take?_literal, Option.bind_some]
  rw [takePattern?_seconds t.time rfl hrest]
  rfl

/-- A written timestamp is read as it is written. -/
theorem ofChars?_chars (t : Timestamp) :
  ofChars? (t.chars 'T') = some t.asWritten
  := by
  have htake := t.takePattern?_chars stopsTime_nil
  rw [List.append_nil] at htake
  rw [ofChars?, Pattern.timestamps, List.findSome?_cons, readPattern?, htake]
  simp only [Option.bind_some, List.isEmpty_nil, if_true, timestamp?_fields]

end Timestamp

/-! ### Written dates and times without blanks -/

theorem Civil.unblank_chars (c : Civil) :
  Unblank c.chars
  := by
  have hhyphen : isBlankChar '-' = false := by decide
  rw [chars]
  simp only [unblank_append, unblank_cons]
  use ⟨unblank_yearChars c.year, hhyphen, (numeral_padded 2 c.month).unblank⟩, hhyphen,
    (numeral_padded 2 c.day).unblank

theorem TimeOfDay.unblank_fractionChars (nano : Nat) :
  Unblank (fractionChars nano)
  := by
  have hpoint : isBlankChar '.' = false := by decide
  rw [fractionChars]
  split
  · apply unblank_nil
  · split
    · apply unblank_cons.mpr ⟨hpoint, (numeral_padded 3 _).unblank⟩
    · split
      · apply unblank_cons.mpr ⟨hpoint, (numeral_padded 6 _).unblank⟩
      · apply unblank_cons.mpr ⟨hpoint, (numeral_padded 9 _).unblank⟩

theorem TimeOfDay.unblank_chars (t : TimeOfDay) :
  Unblank t.chars
  := by
  have hcolon : isBlankChar ':' = false := by decide
  rw [chars]
  simp only [unblank_append, unblank_cons]
  use ⟨⟨(numeral_padded 2 _).unblank, hcolon, (numeral_padded 2 _).unblank⟩, hcolon,
    (numeral_padded 2 _).unblank⟩, unblank_fractionChars _

theorem Timestamp.unblank_chars (t : Timestamp) :
  Unblank (t.chars 'T')
  := by
  rw [chars, unblank_append, unblank_cons]
  use t.date.civil.unblank_chars, by decide, t.time.unblank_chars

/-- A written date is read. -/
theorem Date.ofChars?_chars (d : Date) :
  ofChars? d.civil.chars = some d
  := by
  obtain ⟨hmonth, hday⟩ := d.month_lt_and_day_lt
  have htake := takePattern?_date hmonth hday [] {} []
  rw [List.append_nil, List.append_nil] at htake
  rw [ofChars?, Pattern.dates, List.findSome?_cons, readPattern?, htake]
  simp only [takePattern?, Option.bind_some, List.isEmpty_nil, if_true]
  rw [ClockFields.date?, ofCivil?_civil]

end BoundSql
