import BoundSql.Proofs.Text.Hex
import BoundSql.Uuid

/-!
# Reading identifiers

The text of an identifier has its digits in five groups with hyphens between
them. Without the hyphens they are its digits in a row, so it is read back.
-/

namespace BoundSql.Uuid

open BoundSql.Text

/-- Five groups with hyphens between them are read as their digits in a row. -/
theorem ofHyphenated?_groups {a b c d e : List Char} (ha : a.length = 8) (hb : b.length = 4)
    (hc : c.length = 4) (hd : d.length = 4) (he : e.length = 12) :
  ofHyphenated? (a ++ '-' :: b ++ '-' :: c ++ '-' :: d ++ '-' :: e)
    = ofDigits? (a ++ b ++ c ++ d ++ e)
  := by
  simp [ofHyphenated?, List.drop_append, List.drop_of_length_le, ha, hb, hc, hd, he]

/-- Five groups of the characters of a text are the text. -/
theorem append_groups (ds : List Char) :
  ds.take 8 ++ (ds.drop 8).take 4 ++ (ds.drop 12).take 4 ++ (ds.drop 16).take 4 ++ ds.drop 20 = ds
  := by
  have hgroup : ∀ n rest, rest = ds.drop (n + 4) → (ds.drop n).take 4 ++ rest = ds.drop n := by
    rintro n rest rfl
    rw [← List.drop_drop, List.take_append_drop]
  rw [List.append_assoc, List.append_assoc, List.append_assoc, hgroup 16 _ rfl, hgroup 12 _ rfl,
    hgroup 8 _ rfl, List.take_append_drop]

variable (u : Uuid)

theorem length_digits :
  (hexPadded 32 u.bits.toNat).length = 32
  := by
  apply length_hexPadded (by decide)
  have hlt := u.bits.isLt
  omega

theorem unblank_toText :
  Unblank u.toText.toList
  := by
  have hdigits := unblank_hexPadded 32 u.bits.toNat
  have htake : ∀ n, Unblank ((hexPadded 32 u.bits.toNat).take n) := fun n c hc =>
    hdigits c (List.mem_of_mem_take hc)
  have hdrop : ∀ n, Unblank ((hexPadded 32 u.bits.toNat).drop n) := fun n c hc =>
    hdigits c (List.mem_of_mem_drop hc)
  have hgroup : ∀ n, Unblank (((hexPadded 32 u.bits.toNat).drop n).take 4) := fun n c hc =>
    hdrop n c (List.mem_of_mem_take hc)
  have hhyphen : Text.isBlankChar '-' = false := by decide
  rw [toText, String.toList_ofList]
  simp only [unblank_append, unblank_cons]
  use ⟨⟨⟨htake 8, hhyphen, hgroup 8⟩, hhyphen, hgroup 12⟩, hhyphen, hgroup 16⟩, hhyphen, hdrop 20

/-- A written identifier is read. -/
theorem ofChars?_toText :
  ofChars? u.toText.toList = some u
  := by
  have hlength := u.length_digits
  have hvalue := hexValue?_hexPadded 32 u.bits.toNat
  rw [toText, String.toList_ofList]
  generalize hexPadded 32 u.bits.toNat = ds at *
  have hgroup : ∀ n, n + 4 ≤ 32 → ((ds.drop n).take 4).length = 4 := by
    intro n hn
    rw [List.length_take, List.length_drop]
    omega
  have hgroups := ofHyphenated?_groups (a := ds.take 8) (e := ds.drop 20)
    (by rw [List.length_take]; omega) (hgroup 8 (by decide)) (hgroup 12 (by decide))
    (hgroup 16 (by decide)) (by rw [List.length_drop]; omega)
  have htext : (ds.take 8 ++ '-' :: (ds.drop 8).take 4 ++ '-' :: (ds.drop 12).take 4
      ++ '-' :: (ds.drop 16).take 4 ++ '-' :: ds.drop 20).length = 36 := by
    simp only [List.length_append, List.length_cons, List.length_take, List.length_drop]
    omega
  simp only [ofChars?, htext, hgroups, append_groups, ofDigits?, hlength, hvalue, Option.map_some,
    if_true, BitVec.ofNat_toNat, BitVec.setWidth_eq]
  rfl

end BoundSql.Uuid
