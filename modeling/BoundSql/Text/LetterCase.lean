/-!
# Letter case

Names are compared without regard to the case of the ASCII letters; every
other character stands for itself alone.
-/

namespace BoundSql.Text

/-- A text with its ASCII letters in lower case. -/
def lower (s : String) : String :=
  String.ofList (s.toList.map Char.toLower)

/-- A text with its ASCII letters in upper case. -/
def upper (s : String) : String :=
  String.ofList (s.toList.map Char.toUpper)

/-- Equality up to the case of ASCII letters. -/
def sameName (s t : String) : Bool :=
  lower s == lower t

theorem lower_append (s t : String) :
  lower (s ++ t) = lower s ++ lower t
  := by
  simp [lower, String.ofList_append]

/-- A capital letter goes to the small one 32 code points behind it, and every other character
to itself. -/
theorem toNat_toLower (c : Char) :
  c.toLower.toNat = if 65 ≤ c.toNat ∧ c.toNat ≤ 90 then c.toNat + 32 else c.toNat
  := by
  delta Char.toLower
  split
  · next hupper =>
      rw [ge_iff_le, UInt32.le_iff_toNat_le, UInt32.le_iff_toNat_le] at hupper
      have hletter : 65 ≤ c.toNat ∧ c.toNat ≤ 90 := hupper
      rw [if_pos hletter]
      change (c.val + ('a'.val - 'A'.val)).toNat = c.toNat + 32
      rw [UInt32.toNat_add]
      change (c.toNat + 32) % 2 ^ 32 = c.toNat + 32
      omega
  · next hupper =>
      rw [ge_iff_le, UInt32.le_iff_toNat_le, UInt32.le_iff_toNat_le] at hupper
      rw [if_neg]
      apply hupper

/-- A small letter goes to the capital 32 code points in front of it, and every other character
to itself. -/
theorem toNat_toUpper (c : Char) :
  c.toUpper.toNat = if 97 ≤ c.toNat ∧ c.toNat ≤ 122 then c.toNat - 32 else c.toNat
  := by
  delta Char.toUpper
  split
  · next hlower =>
      rw [UInt32.le_iff_toNat_le, UInt32.le_iff_toNat_le] at hlower
      have hletter : 97 ≤ c.toNat ∧ c.toNat ≤ 122 := hlower
      rw [if_pos hletter]
      change (c.val + ('A'.val - 'a'.val)).toNat = c.toNat - 32
      rw [UInt32.toNat_add]
      -- the difference of the codes is negative, so the sum goes once round the words
      change (c.toNat + 4294967264) % 2 ^ 32 = c.toNat - 32
      omega
  · next hlower =>
      rw [UInt32.le_iff_toNat_le, UInt32.le_iff_toNat_le] at hlower
      rw [if_neg]
      apply hlower

theorem toLower_cases (c : Char) :
  c.toLower = c ∨ 65 ≤ c.toNat ∧ c.toNat ≤ 90 ∧ c.toLower.toNat = c.toNat + 32
  := by
  rw [← Char.toNat_inj, toNat_toLower]
  split
  · next hletter =>
      right
      refine ⟨hletter.1, hletter.2, rfl⟩
  · left
    rfl

theorem toUpper_toLower (c : Char) :
  c.toLower.toUpper = c.toUpper
  := by
  rw [← Char.toNat_inj, toNat_toUpper, toNat_toUpper, toNat_toLower]
  grind

theorem toLower_toUpper (c : Char) :
  c.toUpper.toLower = c.toLower
  := by
  rw [← Char.toNat_inj, toNat_toLower, toNat_toLower, toNat_toUpper]
  grind

/-- A character before the letters is the lower case of itself alone. -/
theorem toLower_eq_iff {c d : Char} (hd : d.toNat < 65) :
  c.toLower = d ↔ c = d
  := by
  rcases toLower_cases c with h | ⟨hlow, -, hval⟩
  · rw [h]
  · constructor
    · rintro rfl
      omega
    · rintro rfl
      omega

theorem sameName_iff (s t : String) :
  sameName s t = true ↔ lower s = lower t
  := by
  simp [sameName]

/-- Texts are the same name when they are the same in upper case. -/
theorem upper_eq_upper_iff (s t : String) :
  upper s = upper t ↔ sameName s t = true
  := by
  have hlower : ∀ s, lower (upper s) = lower s := by
    intro s
    simp only [lower, upper, String.toList_ofList, List.map_map, Function.comp_def, toLower_toUpper]
  have hupper : ∀ s, upper (lower s) = upper s := by
    intro s
    simp only [lower, upper, String.toList_ofList, List.map_map, Function.comp_def, toUpper_toLower]
  rw [sameName_iff]
  constructor
  · intro h
    rw [← hlower s, ← hlower t, h]
  · intro h
    rw [← hupper s, ← hupper t, h]

theorem upper_beq (s : String) {t : String} (ht : upper t = t) :
  (upper s == t) = sameName s t
  := by
  rw [Bool.eq_iff_iff, beq_iff_eq, ← upper_eq_upper_iff, ht]

@[simp]
theorem sameName_refl (s : String) :
  sameName s s = true
  := by
  simp [sameName]

theorem sameName_comm (s t : String) :
  sameName s t = sameName t s
  := by
  simp [sameName, Bool.beq_comm]

theorem sameName_trans {s t u : String} (hst : sameName s t = true) (htu : sameName t u = true) :
  sameName s u = true
  := by
  rw [sameName_iff] at *
  apply hst.trans htu

end BoundSql.Text
