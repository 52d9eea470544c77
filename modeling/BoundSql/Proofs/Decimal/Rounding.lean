import BoundSql.Proofs.Decimal.Reading

/-!
# Rounded decimals

A decimal has the digits of its numeral and as many places as it, or there is no
room for them: then the decimal is less than a unit of its last place off, and it
has all the places that there are or a mantissa that is nearly as large as they come.
-/

namespace BoundSql.Decimal

open BoundSql.Text

/-- A decimal is read from so many digits, taken as one number, and places. It has them as they are,
or some of the last ones are lost because there is no room for them. -/
inductive Reads (d : Decimal) (digits places : Nat) : Prop where
  | exact (hmantissa : d.mantissa = digits) (hscale : d.scale = places)
  | rounded (lost : Nat) (hplaces : places = d.scale + lost)
      (low : d.mantissa * 10 ^ lost < digits + 10 ^ lost)
      (high : digits < (d.mantissa + 1) * 10 ^ lost)
      (large : maxScale < places ∨ mantissaLimit ≤ digits)
      (full : d.scale = maxScale ∨ mantissaLimit ≤ 10 * d.mantissa + 9)

variable {d : Decimal} {negative : Bool} {m s digit : Nat}

theorem ofParts?_eq_some (h : ofParts? negative m s = some d) :
  d.negative = negative ∧ d.mantissa = m ∧ d.scale = s
  := by
  rw [ofParts?] at h
  split at h
  · obtain rfl := Option.some.inj h
    exact ⟨rfl, rfl, rfl⟩
  · contradiction

theorem ofSigned?_eq_some (h : ofSigned? negative m s = some d) :
  d.negative = (negative && d.mantissa != 0) ∧ d.mantissa = m ∧ d.scale = s
  := by
  obtain ⟨hsign, rfl, rfl⟩ := ofParts?_eq_some h
  exact ⟨hsign, rfl, rfl⟩

/-! ### Lost digits -/

/-- Digits behind a number are less than a unit of its last place. -/
theorem ofDigitChars_bounds {ds : List Char} (h : ∀ c ∈ ds, c.isDigit = true) (m : Nat) :
  m * 10 ^ ds.length ≤ Nat.ofDigitChars 10 ds m
    ∧ Nat.ofDigitChars 10 ds m < (m + 1) * 10 ^ ds.length
  := by
  induction ds generalizing m with
  | nil =>
      rw [Nat.ofDigitChars_nil, List.length_nil, Nat.pow_zero]
      omega
  | cons c ds ih =>
      rw [List.forall_mem_cons, isDigit_iff] at h
      have hzero : '0'.toNat = 48 := rfl
      obtain ⟨hlow, hhigh⟩ := ih h.2 (10 * m + (c.toNat - '0'.toNat))
      rw [Nat.ofDigitChars_cons, List.length_cons, Nat.pow_succ', ← Nat.mul_assoc, ← Nat.mul_assoc]
      constructor
      · apply Nat.le_trans _ hlow
        apply Nat.mul_le_mul_right
        omega
      · apply Nat.lt_of_lt_of_le hhigh
        apply Nat.mul_le_mul_right
        omega

/-- A decimal is read from digits when it is less than a unit off from the first of them. -/
theorem Reads.of_leading {digits places lead k lost : Nat}
    (low : lead * 10 ^ lost ≤ digits) (high : digits < (lead + 1) * 10 ^ lost)
    (hlow : d.mantissa * 10 ^ k < lead + 10 ^ k)
    (hhigh : lead < (d.mantissa + 1) * 10 ^ k) (hplaces : places = d.scale + (k + lost))
    (large : maxScale < places ∨ mantissaLimit ≤ digits)
    (full : d.scale = maxScale ∨ mantissaLimit ≤ 10 * d.mantissa + 9) :
  d.Reads digits places
  := by
  have hunit : 0 < 10 ^ lost := Nat.pow_pos (by decide)
  apply Reads.rounded (k + lost) hplaces _ _ large full
  · calc
      d.mantissa * 10 ^ (k + lost) = d.mantissa * 10 ^ k * 10 ^ lost := by
        rw [Nat.pow_add, Nat.mul_assoc]
      _ < (lead + 10 ^ k) * 10 ^ lost := Nat.mul_lt_mul_of_pos_right hlow hunit
      _ = lead * 10 ^ lost + 10 ^ (k + lost) := by rw [Nat.add_mul, Nat.pow_add]
      _ ≤ digits + 10 ^ (k + lost) := Nat.add_le_add_right low _
  · calc
      digits < (lead + 1) * 10 ^ lost := high
      _ ≤ (d.mantissa + 1) * 10 ^ k * 10 ^ lost := Nat.mul_le_mul_right _ hhigh
      _ = (d.mantissa + 1) * 10 ^ (k + lost) := by rw [Nat.pow_add, Nat.mul_assoc]

/-- The last place is rounded by the digit behind it. -/
theorem reads_of_roundedBy {digits places lost : Nat}
    (h : roundedBy negative m s digit = some d) (hdigit : digit ≤ 9)
    (low : (10 * m + digit) * 10 ^ lost ≤ digits)
    (high : digits < (10 * m + digit + 1) * 10 ^ lost) (hplaces : places = s + (1 + lost))
    (large : maxScale < places ∨ mantissaLimit ≤ digits)
    (full : s = maxScale ∨ mantissaLimit ≤ 10 * m + digit) :
  d.negative = (negative && d.mantissa != 0) ∧ d.Reads digits places
  := by
  rw [roundedBy] at h
  split at h
  · -- rounded down
    obtain ⟨hsign, rfl, rfl⟩ := ofSigned?_eq_some h
    use hsign
    apply Reads.of_leading (k := 1) low high _ _ hplaces large <;> omega
  · split at h
    · -- rounded up
      obtain ⟨hsign, hmantissa, rfl⟩ := ofSigned?_eq_some h
      use hsign
      apply Reads.of_leading (k := 1) low high _ _ hplaces large <;> omega
    · -- there is no room for the unit, and the place before the last one is rounded instead
      split at h
      · contradiction
      · obtain ⟨hsign, hmantissa, hscale⟩ := ofSigned?_eq_some h
        use hsign
        apply Reads.of_leading (k := 2) low high _ _ _ large <;> omega

/-! ### Reading a numeral -/

/-- The ways to go on with a character: a digit or a spare character stands where there is no room
for it and the last place is rounded, or the character is read. -/
inductive Scanned (negative point seen : Bool) (m s : Nat) (c : Char) (cs : List Char)
    (d : Decimal) : Prop where
  | lastDigit (hdigit : c.isDigit = true) (hpoint : point = true)
      (hfull : s = maxScale ∨ mantissaLimit ≤ 10 * m + (c.toNat - '0'.toNat))
      (htail : isTail cs = true) (h : roundedBy negative m s (c.toNat - '0'.toNat) = some d)
  | digit (hdigit : c.isDigit = true)
      (h : scan negative point true (10 * m + (c.toNat - '0'.toNat))
        (if point then s + 1 else 0) cs = some d)
  | lastSpare (hc : c = '_' ∨ c = '.') (hpoint : point = true) (hfull : s = maxScale)
      (htail : isTail cs = true) (h : roundedBy negative m s 0 = some d)
  | point (hc : c = '.') (hpoint : point = false) (h : scan negative true seen m s cs = some d)
  | underscore (hc : c = '_') (hseen : seen = true)
      (h : scan negative point seen m s cs = some d)

theorem scanned_of_scan {point seen : Bool} {c : Char} {cs : List Char}
    (h : scan negative point seen m s (c :: cs) = some d) :
  Scanned negative point seen m s c cs d
  := by
  rw [scan] at h
  split at h
  · next hdigit =>
      simp only at h
      split at h
      · next hfull =>
          simp only [Bool.and_eq_true, Bool.or_eq_true, decide_eq_true_eq] at hfull
          split at h
          · next htail => exact .lastDigit hdigit hfull.1 hfull.2 htail h
          · contradiction
      · split at h
        · contradiction
        · exact .digit hdigit h
  · split at h
    · next hfull =>
        simp only [Bool.and_eq_true, decide_eq_true_eq] at hfull
        split at h
        · next hspare =>
            simp only [Bool.and_eq_true, Bool.or_eq_true, decide_eq_true_eq] at hspare
            exact .lastSpare hspare.1 hfull.1 hfull.2 hspare.2 h
        · contradiction
    · split at h
      · next hc =>
          simp only [Bool.and_eq_true, decide_eq_true_eq, Bool.not_eq_true'] at hc
          exact .point hc.1 hc.2 h
      · split at h
        · next hc =>
            simp only [Bool.and_eq_true, decide_eq_true_eq] at hc
            exact .underscore hc.1 hc.2 h
        · contradiction

/-- The number of places of a numeral, so many of them read, that goes on with the given
characters. -/
def placesFrom (point : Bool) (s : Nat) (cs : List Char) : Nat :=
  if point then s + (cs.filter Char.isDigit).length
  else ((cs.dropWhile (· ≠ '.')).filter Char.isDigit).length

theorem placesFrom_digit {c : Char} (hc : c.isDigit = true) (point : Bool) (s : Nat)
    (cs : List Char) :
  placesFrom point s (c :: cs) = placesFrom point (if point then s + 1 else 0) cs
  := by
  cases point with
  | true =>
      rw [placesFrom, placesFrom, if_pos rfl, if_pos rfl, if_pos rfl, List.filter_cons_of_pos hc,
        List.length_cons]
      omega
  | false =>
      have hne : c ≠ '.' := by
        rintro rfl
        contradiction
      rw [placesFrom, placesFrom, List.dropWhile_cons_of_pos (by simp [hne])]
      rfl

theorem placesFrom_point (s : Nat) (cs : List Char) :
  placesFrom false s ('.' :: cs) = placesFrom true 0 cs
  := by
  rw [placesFrom, placesFrom, List.dropWhile_cons_of_neg (by decide),
    List.filter_cons_of_neg (by decide), if_neg Bool.false_ne_true, if_pos rfl, Nat.zero_add]

/-- Other characters do not count. -/
theorem placesFrom_spare {c : Char} (hc : ¬c.isDigit = true) {point : Bool}
    (hpoint : point = true ∨ c ≠ '.') (s : Nat) (cs : List Char) :
  placesFrom point s (c :: cs) = placesFrom point s cs
  := by
  cases point with
  | true => rw [placesFrom, placesFrom, if_pos rfl, if_pos rfl, List.filter_cons_of_neg hc]
  | false =>
      have hne : c ≠ '.' := by simpa using hpoint
      rw [placesFrom, placesFrom, List.dropWhile_cons_of_pos (by simp [hne])]
      rfl

/-- Where there is no room for a spare character, the digits behind it are lost. -/
theorem reads_of_spare {ds : List Char} (hds : ∀ c ∈ ds, c.isDigit = true)
    (h : roundedBy negative m maxScale 0 = some d) :
  d.negative = (negative && d.mantissa != 0)
    ∧ d.Reads (Nat.ofDigitChars 10 ds m) (maxScale + ds.length)
  := by
  obtain ⟨hsign, rfl, hscale⟩ := ofSigned?_eq_some h
  obtain ⟨hlow, hhigh⟩ := ofDigitChars_bounds hds d.mantissa
  use hsign
  rcases Nat.eq_zero_or_pos ds.length with hnone | hlost
  · rw [hnone, Nat.pow_zero] at hlow hhigh
    apply Reads.exact <;> omega
  · apply Reads.of_leading (k := 0) hlow hhigh <;> omega

/-- A decimal is read from all the digits of its numeral. -/
theorem reads_of_scan {cs : List Char} {point seen : Bool}
    (h : scan negative point seen m s cs = some d) (hpoint : point = false → s = 0) :
  d.negative = (negative && d.mantissa != 0)
    ∧ d.Reads (Nat.ofDigitChars 10 (cs.filter Char.isDigit) m) (placesFrom point s cs)
  := by
  induction cs generalizing point seen m s with
  | nil =>
      rw [scan] at h
      split at h
      · obtain ⟨hsign, rfl, rfl⟩ := ofSigned?_eq_some h
        use hsign
        apply Reads.exact rfl
        cases point with
        | true => rfl
        | false => apply hpoint rfl
      · contradiction
  | cons c cs ih =>
      have hdigits : ∀ c ∈ cs.filter Char.isDigit, c.isDigit = true :=
        fun _ hc => (List.mem_filter.mp hc).2
      cases scanned_of_scan h with
      | lastDigit hdigit hpoint hfull _ hrounded =>
          have hrange := (isDigit_iff c).mp hdigit
          have hzero : '0'.toNat = 48 := rfl
          obtain ⟨hlow, hhigh⟩ := ofDigitChars_bounds hdigits (10 * m + (c.toNat - '0'.toNat))
          have hgrow := le_ofDigitChars (cs.filter Char.isDigit) (10 * m + (c.toNat - '0'.toNat))
          have hplaces : placesFrom true (s + 1) cs
              = s + (1 + (cs.filter Char.isDigit).length) := Nat.add_assoc _ _ _
          subst hpoint
          rw [List.filter_cons_of_pos hdigit, Nat.ofDigitChars_cons, placesFrom_digit hdigit]
          apply reads_of_roundedBy hrounded (by omega) hlow hhigh hplaces (by omega) hfull
      | digit hdigit hrest =>
          rw [List.filter_cons_of_pos hdigit, Nat.ofDigitChars_cons, placesFrom_digit hdigit]
          apply ih hrest
          rintro rfl
          rfl
      | lastSpare hc hpoint hfull _ hrounded =>
          have hdigit : ¬c.isDigit = true := by
            rcases hc with rfl | rfl <;> decide
          subst hpoint hfull
          rw [List.filter_cons_of_neg hdigit, placesFrom_spare hdigit (.inl rfl)]
          apply reads_of_spare hdigits hrounded
      | point hc hfalse hrest =>
          subst hc hfalse
          obtain rfl := hpoint rfl
          rw [List.filter_cons_of_neg (by decide), placesFrom_point]
          apply ih hrest
          simp
      | underscore hc _ hrest =>
          subst hc
          rw [List.filter_cons_of_neg (by decide), placesFrom_spare (by decide) (.inr (by decide))]
          apply ih hrest hpoint

end BoundSql.Decimal
