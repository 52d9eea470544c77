import BoundSql.Guard.Scan
import BoundSql.Proofs.Text.Numeral
import Mathlib.Tactic.Use

/-!
# The bytes of characters

A character of ASCII is a single byte, and every byte of any other character is
beyond ASCII. So a byte of ASCII is a character of the text, runs of such
characters are runs of bytes, and a slice between two characters is what stands
between them.
-/

namespace BoundSql.Marker

/-- The bytes of characters, each as the character of its number. -/
def spelling (cs : List Char) : List Char :=
  (cs.flatMap String.utf8EncodeChar).map Char.ofUInt8

theorem octets_eq_spelling (sql : String) :
  octets sql = spelling sql.toList
  := by
  rw [octets, Wire.textBytes, spelling]
  conv => lhs; rw [← String.ofList_toList (s := sql)]
  rw [String.toByteArray_ofList, List.utf8Encode, List.data_toByteArray]

theorem spelling_nil :
  spelling [] = []
  := rfl

theorem spelling_append (cs ds : List Char) :
  spelling (cs ++ ds) = spelling cs ++ spelling ds
  := by
  rw [spelling, List.flatMap_append, List.map_append]
  rfl

theorem spelling_cons (c : Char) (cs : List Char) :
  spelling (c :: cs) = spelling [c] ++ spelling cs
  := spelling_append [c] cs

/-! ### Characters -/

theorem toNat_ofUInt8 (b : UInt8) :
  (Char.ofUInt8 b).toNat = b.toNat
  := rfl

/-- A character of ASCII is its byte. -/
theorem spelling_of_lt {c : Char} (h : c.toNat < 128) :
  spelling [c] = [c]
  := by
  have hval : c.val.toNat ≤ 127 := Nat.le_of_lt_succ h
  rw [spelling, List.flatMap_singleton, String.utf8EncodeChar]
  simp only [hval, if_true, List.map_cons, List.map_nil]
  congr 1
  rw [← Char.toNat_inj, toNat_ofUInt8, UInt8.toNat_ofNat']
  show c.toNat % 2 ^ 8 = c.toNat
  omega

theorem spelling_cons_of_lt {c : Char} (h : c.toNat < 128) (cs : List Char) :
  spelling (c :: cs) = c :: spelling cs
  := by
  rw [spelling_cons, spelling_of_lt h]
  rfl

/-- The bytes of any other character are beyond ASCII. -/
theorem le_of_mem_spelling {c : Char} (h : 128 ≤ c.toNat) :
  ∀ b ∈ spelling [c], 128 ≤ b.toNat
  := by
  have hval : ¬ c.val.toNat ≤ 127 := Nat.not_le.mpr h
  -- the first byte of several is at least 192, and the others are at least 128
  have hbyte : ∀ n, 128 ≤ n → n < 256 → 128 ≤ (UInt8.ofNat n).toNat := by
    intro n hlow hhigh
    rw [UInt8.toNat_ofNat']
    omega
  rw [spelling, List.flatMap_singleton, List.forall_mem_map]
  intro b hb
  rw [toNat_ofUInt8]
  rw [String.utf8EncodeChar] at hb
  simp only [hval, if_false] at hb
  split at hb
  · simp only [List.mem_cons, List.not_mem_nil, or_false] at hb
    rcases hb with rfl | rfl
    · apply hbyte _ (by omega) (by omega)
    · apply hbyte _ (by omega) (by omega)
  · split at hb
    · simp only [List.mem_cons, List.not_mem_nil, or_false] at hb
      rcases hb with rfl | rfl | rfl
      · apply hbyte _ (by omega) (by omega)
      · apply hbyte _ (by omega) (by omega)
      · apply hbyte _ (by omega) (by omega)
    · simp only [List.mem_cons, List.not_mem_nil, or_false] at hb
      rcases hb with rfl | rfl | rfl | rfl
      · apply hbyte _ (by omega) (by omega)
      · apply hbyte _ (by omega) (by omega)
      · apply hbyte _ (by omega) (by omega)
      · apply hbyte _ (by omega) (by omega)

theorem length_spelling (c : Char) :
  (spelling [c]).length = c.utf8Size
  := by
  rw [spelling, List.flatMap_singleton, List.length_map, String.length_utf8EncodeChar]

theorem spelling_ne_nil (c : Char) :
  spelling [c] ≠ []
  := by
  rw [← List.length_pos_iff, length_spelling]
  apply c.utf8Size_pos

theorem spelling_eq_nil_iff (cs : List Char) :
  spelling cs = [] ↔ cs = []
  := by
  cases cs with
  | nil => simp [spelling_nil]
  | cons c cs =>
      rw [spelling_cons, List.append_eq_nil_iff]
      simp [spelling_ne_nil]

/-- A byte of ASCII in a character is the character. -/
theorem eq_of_mem_spelling {b c : Char} (h : b ∈ spelling [c]) (hb : b.toNat < 128) :
  b = c ∧ spelling [c] = [c]
  := by
  by_cases hc : c.toNat < 128
  · rw [spelling_of_lt hc, List.mem_singleton] at h
    use h, spelling_of_lt hc
  · have := le_of_mem_spelling (Nat.not_lt.mp hc) b h
    omega

/-! ### First bytes and runs -/

/-- Whether a kind has only characters of ASCII. -/
def IsAsciiKind (kind : Char → Bool) : Prop :=
  ∀ c, kind c = true → c.toNat < 128

theorem isAsciiKind_isNameChar :
  IsAsciiKind isNameChar
  := by
  intro c h
  simp only [isNameChar, Char.isAlphanum, Bool.or_eq_true, beq_iff_eq] at h
  rcases h with (h | h) | rfl
  · rw [Text.isAlpha_iff] at h
    omega
  · rw [Text.isDigit_iff] at h
    omega
  · decide

theorem isAsciiKind_isDigit :
  IsAsciiKind Char.isDigit
  := by
  intro c h
  rw [Text.isDigit_iff] at h
  omega

theorem isAsciiKind_isNameStart :
  IsAsciiKind isNameStart
  := by
  intro c h
  simp only [isNameStart, Bool.or_eq_true, beq_iff_eq] at h
  rcases h with h | rfl
  · rw [Text.isAlpha_iff] at h
    omega
  · decide

theorem isAsciiKind_eq {d : Char} (hd : d.toNat < 128) :
  IsAsciiKind (· == d)
  := by
  intro c h
  rw [beq_iff_eq.mp h]
  apply hd

/-- A text begins with a byte of a kind of ASCII exactly when it begins with a character of it. -/
theorem any_head?_spelling {kind : Char → Bool} (h : IsAsciiKind kind) (cs : List Char) :
  (spelling cs).head?.any kind = cs.head?.any kind
  := by
  cases cs with
  | nil => rfl
  | cons c cs =>
      obtain ⟨b, bs, hbs⟩ := List.exists_cons_of_ne_nil (spelling_ne_nil c)
      have hmem : b ∈ spelling [c] := by
        rw [hbs]
        apply List.mem_cons_self
      rw [spelling_cons, hbs, List.cons_append, List.head?_cons, List.head?_cons, Option.any_some,
        Option.any_some]
      by_cases hc : c.toNat < 128
      · rw [spelling_of_lt hc] at hmem
        rw [List.mem_singleton.mp hmem]
      · have hb := le_of_mem_spelling (Nat.not_lt.mp hc) b hmem
        have hkind : ∀ d : Char, 128 ≤ d.toNat → kind d = false := by
          intro d hd
          rw [Bool.eq_false_iff]
          intro hkind
          have := h d hkind
          omega
        rw [hkind b hb, hkind c (Nat.not_lt.mp hc)]

theorem head?_spelling_eq_iff {d : Char} (hd : d.toNat < 128) (cs : List Char) :
  (spelling cs).head? = some d ↔ cs.head? = some d
  := by
  have h := any_head?_spelling (isAsciiKind_eq hd) cs
  rw [Bool.eq_iff_iff, Option.any_eq_true, Option.any_eq_true] at h
  simpa using h

/-- A run of a kind of ASCII is a run of bytes. -/
theorem takeWhile_spelling {kind : Char → Bool} (h : IsAsciiKind kind) (cs : List Char) :
  (spelling cs).takeWhile kind = cs.takeWhile kind
    ∧ spelling (cs.takeWhile kind) = cs.takeWhile kind
  := by
  induction cs with
  | nil => exact ⟨rfl, rfl⟩
  | cons c cs ih =>
      by_cases hc : kind c = true
      · have hbyte := spelling_of_lt (h c hc)
        rw [List.takeWhile_cons_of_pos hc]
        constructor
        · rw [spelling_cons, hbyte, List.singleton_append, List.takeWhile_cons_of_pos hc, ih.1]
        · rw [spelling_cons, hbyte, List.singleton_append, ih.2]
      · rw [List.takeWhile_cons_of_neg hc]
        refine ⟨?_, spelling_nil⟩
        have hhead := any_head?_spelling h (c :: cs)
        cases hbs : spelling (c :: cs) with
        | nil => rfl
        | cons b bs =>
            rw [hbs] at hhead
            rw [List.takeWhile_cons_of_neg]
            simpa [hc] using hhead

/-! ### Indices -/

/-- The byte behind some is the first of those that follow. -/
theorem getElem?_append_length (front bs : List Char) :
  (front ++ bs)[front.length]? = bs.head?
  := by
  rw [List.getElem?_append_right (Nat.le_refl _), Nat.sub_self, List.head?_eq_getElem?]

theorem runEnd_spelling {kind : Char → Bool} (h : IsAsciiKind kind) (front : List Char)
    (cs : List Char) :
  runEnd kind (front ++ spelling cs) front.length
    = (front ++ spelling (cs.takeWhile kind)).length
  := by
  rw [runEnd, List.drop_left, (takeWhile_spelling h cs).1, (takeWhile_spelling h cs).2,
    List.length_append]

/-! ### Slices -/

theorem toList_data_toByteArray_ofList (cs : List Char) :
  (String.ofList cs).toByteArray.data.toList = cs.flatMap String.utf8EncodeChar
  := by
  rw [String.toByteArray_ofList, List.utf8Encode, List.data_toByteArray]

theorem utf8ByteSize_ofList (cs : List Char) :
  (String.ofList cs).utf8ByteSize = (spelling cs).length
  := by
  rw [← String.size_toByteArray, ByteArray.size, ← Array.length_toList,
    toList_data_toByteArray_ofList, spelling, List.length_map]

theorem isValid_of_append {sql : String} {front rest : List Char} (h : sql.toList = front ++ rest) :
  (String.Pos.Raw.mk (spelling front).length).IsValid sql
  := by
  rw [String.Pos.Raw.isValid_iff_exists_append]
  use String.ofList front, String.ofList rest
  constructor
  · rw [← String.toList_inj, String.toList_append, String.toList_ofList, String.toList_ofList, h]
  · rw [← utf8ByteSize_ofList]
    rfl

/-- A slice from the end of a front through a part behind it is the part. -/
theorem slice?_of_append {sql : String} {front part rest : List Char}
    (h : sql.toList = front ++ part ++ rest) :
  slice? sql (spelling front).length (spelling (front ++ part)).length
    = some (String.ofList part)
  := by
  have hbehind : sql.toList = front ++ (part ++ rest) := by
    rw [h, List.append_assoc]
  have hstart := isValid_of_append hbehind
  have hstop := isValid_of_append h
  have hle : (spelling front).length ≤ (spelling (front ++ part)).length := by
    rw [spelling_append, List.length_append]
    apply Nat.le_add_right
  rw [slice?, dif_pos ⟨hstart, hstop, hle⟩]
  congr 1
  rw [← String.toByteArray_inj, String.toByteArray_extract, ByteArray.ext_iff,
    ByteArray.data_extract, ← Array.toList_inj, Array.toList_extract,
    toList_data_toByteArray_ofList]
  obtain rfl : sql = String.ofList (front ++ part ++ rest) := by
    rw [← h, String.ofList_toList]
  rw [toList_data_toByteArray_ofList]
  simp [spelling]

end BoundSql.Marker
