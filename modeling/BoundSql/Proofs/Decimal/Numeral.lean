import BoundSql.Binary.Literal
import BoundSql.Proofs.Decimal.Rounding
import Mathlib.Algebra.Order.Field.Rat
import Mathlib.Data.List.TakeWhile

/-!
# Numerals of decimals

A numeral has a sign, digits with a point and underscores among them, and an exponent.
Every text has a value as a numeral, for which only its signs, its digits, its first
point and its exponent mark count. A decimal is read from a text that is nearly a numeral:
where there is no room for another digit a second point may stand, and behind the minus
sign of the exponent a plus sign.
-/

namespace BoundSql

open BoundSql.Double (takeSign)

namespace Text

/-- The characters in front of the exponent mark. -/
def significand (cs : List Char) : List Char :=
  cs.takeWhile (!Decimal.isExponentMark ·)

/-- The characters behind the exponent mark, if there is one. -/
def exponent? (cs : List Char) : Option (List Char) :=
  (cs.dropWhile (!Decimal.isExponentMark ·)).tail?

/-- A numeral without a sign and an exponent: digits with at most one point among them, and
underscores behind the first digit. -/
structure UnsignedNumeral (cs : List Char) : Prop where
  chars : ∀ c ∈ cs, c.isDigit = true ∨ c = '_' ∨ c = '.'
  opens : ∃ c ∈ cs.takeWhile (· ≠ '_'), c.isDigit = true
  point : cs.count '.' ≤ 1

/-- A plain or scientific numeral. -/
structure IsNumeral (cs : List Char) : Prop where
  significand : UnsignedNumeral (takeSign (significand cs)).2
  exponent : ∀ r ∈ exponent? cs, Numeral (takeSign r).2

/-- The number of the digits among characters. -/
def digitsAmong (cs : List Char) : Nat :=
  digitsValue (cs.filter Char.isDigit)

/-- The number of the digits behind the first point. -/
def places (cs : List Char) : Nat :=
  ((cs.dropWhile (· ≠ '.')).filter Char.isDigit).length

/-- A number with a sign. -/
def signed (negative : Bool) (x : Rat) : Rat :=
  if negative then -x else x

/-- The value of an exponent. -/
def exponentValue (cs : List Char) : Int :=
  if (takeSign cs).1 then -digitsAmong (takeSign cs).2 else digitsAmong (takeSign cs).2

/-- The value of what stands in front of an exponent. -/
def significandValue (cs : List Char) : Rat :=
  signed (takeSign cs).1 (digitsAmong (takeSign cs).2 / 10 ^ places (takeSign cs).2)

/-- The exact value of a numeral. -/
def numeralValue (cs : List Char) : Rat :=
  significandValue (significand cs) * 10 ^ ((exponent? cs).elim 0 exponentValue)

end Text

namespace Decimal

open BoundSql.Text

variable {cs : List Char} {d : Decimal}

/-! ### Plain numerals -/

theorem ofPlain?_eq (cs : List Char) :
  ofPlain? cs = scan (takeSign cs).1 false false 0 0 (takeSign cs).2
  := by
  unfold ofPlain?
  split
  · rfl
  · rfl
  · next hminus hplus =>
      rw [takeSign]
      · apply hminus
      · apply hplus

theorem isDigit_or_of_isTail (h : isTail cs = true) :
  ∀ c ∈ cs, c.isDigit = true ∨ c = '_' ∨ c = '.'
  := by
  intro c hc
  have hchar := List.all_eq_true.mp h c hc
  simp only [Bool.or_eq_true, decide_eq_true_eq] at hchar
  rcases hchar with hdigit | hspare
  · exact .inl hdigit
  · exact .inr (.inl hspare)

theorem chars_of_scan {negative point seen : Bool} {m s : Nat}
    (h : scan negative point seen m s cs = some d) :
  ∀ c ∈ cs, c.isDigit = true ∨ c = '_' ∨ c = '.'
  := by
  induction cs generalizing point seen m s with
  | nil =>
      intro c hc
      contradiction
  | cons c cs ih =>
      rw [List.forall_mem_cons]
      cases scanned_of_scan h with
      | lastDigit hdigit _ _ htail _ => exact ⟨.inl hdigit, isDigit_or_of_isTail htail⟩
      | digit hdigit hrest => exact ⟨.inl hdigit, ih hrest⟩
      | lastSpare hc _ _ htail _ => exact ⟨.inr hc, isDigit_or_of_isTail htail⟩
      | point hc _ hrest => exact ⟨.inr (.inr hc), ih hrest⟩
      | underscore hc _ hrest => exact ⟨.inr (.inl hc), ih hrest⟩

/-- There is a digit, and no underscore in front of it. -/
theorem opens_of_scan {negative point : Bool} {m s : Nat}
    (h : scan negative point false m s cs = some d) (hs : s ≠ maxScale) :
  ∃ c ∈ cs.takeWhile (· ≠ '_'), c.isDigit = true
  := by
  have hopen : ∀ (c : Char) (cs : List Char), c.isDigit = true →
      ∃ c' ∈ (c :: cs).takeWhile (· ≠ '_'), c'.isDigit = true := by
    intro c cs hdigit
    have hne : c ≠ '_' := by
      rintro rfl
      contradiction
    use c
    simp [hne, hdigit]
  induction cs generalizing point m s with
  | nil =>
      rw [scan] at h
      contradiction
  | cons c cs ih =>
      cases scanned_of_scan h with
      | lastDigit hdigit => exact hopen c cs hdigit
      | digit hdigit => exact hopen c cs hdigit
      | lastSpare _ _ hfull => apply absurd hfull hs
      | point hc _ hrest =>
          obtain ⟨c', hc', hdigit⟩ := ih hrest hs
          use c'
          rw [hc, List.takeWhile_cons_of_pos (by decide)]
          exact ⟨List.mem_cons_of_mem _ hc', hdigit⟩
      | underscore _ hseen => contradiction

/-- A plain numeral is read from an unsigned numeral, unless it has a second point. -/
theorem unsignedNumeral_of_ofPlain? (h : ofPlain? cs = some d)
    (hpoint : (takeSign cs).2.count '.' ≤ 1) :
  UnsignedNumeral (takeSign cs).2
  := by
  rw [ofPlain?_eq] at h
  exact ⟨chars_of_scan h, opens_of_scan h (by decide), hpoint⟩

/-- A plain numeral has no exponent mark. -/
theorem not_isExponentMark_of_ofPlain? (h : ofPlain? cs = some d) :
  ∀ c ∈ cs, isExponentMark c = false
  := by
  rw [ofPlain?_eq] at h
  have hunsigned : ∀ c ∈ (takeSign cs).2, isExponentMark c = false := by
    intro c hc
    rcases chars_of_scan h c hc with hdigit | rfl | rfl
    · rw [isDigit_iff] at hdigit
      have hmark : c.toNat ≠ 'e'.toNat ∧ c.toNat ≠ 'E'.toNat := by
        show c.toNat ≠ 101 ∧ c.toNat ≠ 69
        omega
      simp only [isExponentMark, Bool.or_eq_false_iff, decide_eq_false_iff_not]
      exact ⟨fun h => hmark.1 (congrArg Char.toNat h), fun h => hmark.2 (congrArg Char.toNat h)⟩
    · rfl
    · rfl
  clear h
  revert hunsigned
  unfold takeSign
  split
  · intro hunsigned
    exact List.forall_mem_cons.mpr ⟨rfl, hunsigned⟩
  · intro hunsigned
    exact List.forall_mem_cons.mpr ⟨rfl, hunsigned⟩
  · exact id

/-! ### Scientific numerals -/

/-- An exponent is read as the number of its digits. It is a numeral behind its sign, unless a plus
sign stands behind a minus sign. -/
structure IsExponent (cs : List Char) (n : Nat) : Prop where
  value : digitsAmong (takeSign cs).2 = n
  numeral : ¬['-', '+'] <+: cs → Numeral (takeSign cs).2

/-- The decimal with its point moved as far as an exponent says. -/
def shifted? (d : Decimal) (negative : Bool) (n : Nat) : Option Decimal :=
  if negative then d.shiftLeft? n else d.shiftRight? n

theorem digitsAmong_of_numeral {ds : List Char} (h : Numeral ds) :
  digitsAmong ds = digitsValue ds
  := by
  rw [digitsAmong, List.filter_eq_self.mpr h.digits]

/-- A numeral has no sign. -/
theorem takeSign_of_numeral {ds : List Char} (h : Numeral ds) :
  takeSign ds = (false, ds)
  := by
  rw [takeSign]
  · rintro r rfl
    have hminus := h.digits '-' List.mem_cons_self
    contradiction
  · rintro r rfl
    have hplus := h.digits '+' List.mem_cons_self
    contradiction

/-- An exponent without a minus sign is a numeral, with a plus sign in front of it or without. -/
theorem exponentValue?_eq_some {n : Nat} (h : exponentValue? cs = some n) :
  digitsAmong cs = n ∧ ((∃ r, cs = '+' :: r ∧ Numeral r) ∨ Numeral cs)
  := by
  have hread : ∀ ds : List Char, (if ds ≠ [] ∧ ds.all Char.isDigit ∧ digitsValue ds < UInt32.size
      then some (digitsValue ds) else none) = some n → digitsAmong ds = n ∧ Numeral ds := by
    intro ds hds
    split at hds
    · next hcond =>
        have hnumeral : Numeral ds := ⟨List.all_eq_true.mp hcond.2.1, hcond.1⟩
        rw [digitsAmong_of_numeral hnumeral]
        exact ⟨Option.some.inj hds, hnumeral⟩
    · contradiction
  by_cases hplus : ∃ r, cs = '+' :: r
  · obtain ⟨r, rfl⟩ := hplus
    obtain ⟨hdigits, hnumeral⟩ := hread r h
    rw [digitsAmong, List.filter_cons_of_neg (by decide)]
    exact ⟨hdigits, .inl ⟨r, rfl, hnumeral⟩⟩
  · rw [exponentValue?] at h
    · exact (hread cs h).imp_right .inr
    · exact not_exists.mp hplus

theorem isExponent_minus {r : List Char} {n : Nat} (h : exponentValue? r = some n) :
  IsExponent ('-' :: r) n
  := by
  obtain ⟨hdigits, hplus | hnumeral⟩ := exponentValue?_eq_some h
  · obtain ⟨r, rfl, _⟩ := hplus
    use hdigits
    intro hspare
    apply absurd (List.prefix_append ['-', '+'] r) hspare
  · exact ⟨hdigits, fun _ => hnumeral⟩

theorem isExponent_of_exponentValue? {n : Nat} (h : exponentValue? cs = some n) :
  (takeSign cs).1 = false ∧ IsExponent cs n
  := by
  obtain ⟨hdigits, hplus | hnumeral⟩ := exponentValue?_eq_some h
  · obtain ⟨r, rfl, hnumeral⟩ := hplus
    exact ⟨rfl, hdigits, fun _ => hnumeral⟩
  · have hsign := takeSign_of_numeral hnumeral
    use congrArg Prod.fst hsign
    constructor
    · rw [hsign, hdigits]
    · intro _
      rw [hsign]
      apply hnumeral

/-- A scientific numeral is read from a plain one and an exponent. -/
theorem exists_of_ofScientific? (h : ofScientific? cs = some d) :
  ∃ d₀ r n, ofPlain? (significand cs) = some d₀ ∧ exponent? cs = some r ∧ IsExponent r n
    ∧ d₀.shifted? (takeSign r).1 n = some d
  := by
  rw [ofScientific?] at h
  split at h
  · contradiction
  · next c exponent hrest =>
      obtain ⟨d₀, hplain, hshift⟩ := Option.bind_eq_some_iff.mp h
      have hexponent : exponent? cs = some exponent := by
        rw [exponent?, hrest]
        rfl
      use d₀, exponent
      split at hshift
      · -- the minus sign is taken off first, and a plus sign behind it next
        obtain ⟨n, hvalue, hshift⟩ := Option.bind_eq_some_iff.mp hshift
        exact ⟨n, hplain, hexponent, isExponent_minus hvalue, hshift⟩
      · obtain ⟨n, hvalue, hshift⟩ := Option.bind_eq_some_iff.mp hshift
        obtain ⟨hsign, hexp⟩ := isExponent_of_exponentValue? hvalue
        use n, hplain, hexponent, hexp
        rw [hsign]
        apply hshift

/-- A decimal is read from what stands in front of the exponent, and shifted by the exponent if
there is one. -/
theorem exists_of_ofText? {s : String} (h : ofText? s = some d) :
  ∃ d₀, ofPlain? (significand s.toList) = some d₀
    ∧ ((exponent? s.toList = none ∧ d = d₀)
      ∨ ∃ r n, exponent? s.toList = some r ∧ IsExponent r n
        ∧ d₀.shifted? (takeSign r).1 n = some d)
  := by
  rcases Option.or_eq_some_iff.mp h with hplain | ⟨_, hscientific⟩
  · have hmark : ∀ c ∈ s.toList, (!isExponentMark c) = true := by
      intro c hc
      rw [not_isExponentMark_of_ofPlain? hplain c hc]
      rfl
    use d
    rw [significand, exponent?, List.takeWhile_eq_self_iff.mpr hmark,
      List.dropWhile_eq_nil_iff.mpr hmark]
    exact ⟨hplain, .inl ⟨rfl, rfl⟩⟩
  · obtain ⟨d₀, r, n, hplain, hexponent, hshift⟩ := exists_of_ofScientific? hscientific
    exact ⟨d₀, hplain, .inr ⟨r, n, hexponent, hshift⟩⟩

/-- A plain numeral is read from all its digits. -/
theorem reads_of_ofPlain? (h : ofPlain? cs = some d) :
  d.negative = ((takeSign cs).1 && d.mantissa != 0)
    ∧ d.Reads (digitsAmong (takeSign cs).2) (places (takeSign cs).2)
  := by
  rw [ofPlain?_eq] at h
  apply reads_of_scan h
  intro _
  rfl

end Decimal

end BoundSql
