import BoundSql.Proofs.Fragment.Written
import BoundSql.Proofs.Ident
import BoundSql.Proofs.Text.Numeral
import Mathlib.Computability.RegularExpressions
import Mathlib.Data.List.TakeWhile

/-!
# Names as regular expressions

The grammar of names is regular: a segment is a letter, a digit or an underscore
and any number of those behind it, and a qualified name is a segment and any
number of dots with a segment behind each. An identifier stands in the text of a
statement like the text that it was taken from, and it is divided at its last dot
into a single segment and the qualified name in front of it.
-/

namespace BoundSql.Ident

open RegularExpression

/-! ### Expressions -/

/-- One of some characters. -/
def oneOf : List Char → RegularExpression Char
  | [] => 0
  | c :: cs => char c + oneOf cs

/-- What an expression describes, at least once. -/
def repeated (e : RegularExpression Char) : RegularExpression Char :=
  e * e.star

/-- The characters from one code point through another. -/
def between (first last : Char) : List Char :=
  (List.range' first.toNat (last.toNat + 1 - first.toNat)).map Char.ofNat

/-- The letters in both cases, the digits and the underscore. -/
def segmentChars : List Char :=
  between 'A' 'Z' ++ between 'a' 'z' ++ between '0' '9' ++ ['_']

/-- The expression for segments. -/
def segmentPattern : RegularExpression Char :=
  repeated (oneOf segmentChars)

/-- The expression for qualified names. -/
def qualifiedPattern : RegularExpression Char :=
  segmentPattern * (char '.' * segmentPattern).star

theorem mem_oneOf_iff {cs t : List Char} :
  t ∈ (oneOf cs).matches' ↔ ∃ c ∈ cs, t = [c]
  := by
  induction cs with
  | nil =>
      rw [oneOf, matches'_zero]
      simp
  | cons c cs ih =>
      rw [oneOf, matches'_add, Language.mem_add, ih, matches'_char, List.exists_mem_cons_iff]
      rfl

/-- A text repeats one of some characters when it has no others and is not empty. -/
theorem mem_repeated_oneOf_iff {cs t : List Char} :
  t ∈ (repeated (oneOf cs)).matches' ↔ t ≠ [] ∧ ∀ c ∈ t, c ∈ cs
  := by
  rw [repeated, matches'_mul, matches'_star, Language.mem_mul]
  constructor
  · rintro ⟨a, ha, b, hb, rfl⟩
    obtain ⟨c, hc, rfl⟩ := mem_oneOf_iff.mp ha
    obtain ⟨parts, rfl, hparts⟩ := Language.mem_kstar.mp hb
    use List.cons_ne_nil c _
    rw [List.singleton_append, List.forall_mem_cons]
    use hc
    intro d hd
    obtain ⟨part, hpart, hd⟩ := List.mem_flatten.mp hd
    obtain ⟨e, he, rfl⟩ := mem_oneOf_iff.mp (hparts part hpart)
    rw [List.mem_singleton.mp hd]
    apply he
  · rintro ⟨hne, h⟩
    obtain ⟨c, t, rfl⟩ := List.exists_cons_of_ne_nil hne
    rw [List.forall_mem_cons] at h
    have htail : t ∈ KStar.kstar (oneOf cs).matches' := by
      apply Language.mem_kstar.mpr
      use t.map ([·])
      constructor
      · rw [← List.flatMap_def, List.flatMap_singleton']
      · rw [List.forall_mem_map]
        intro d hd
        apply mem_oneOf_iff.mpr ⟨d, h.2 d hd, rfl⟩
    use [c], mem_oneOf_iff.mpr ⟨c, h.1, rfl⟩, t, htail
    rfl

/-! ### Segments -/

theorem mem_between_iff {first last : Char} (hlast : last.toNat < 55296) (c : Char) :
  c ∈ between first last ↔ first.toNat ≤ c.toNat ∧ c.toNat ≤ last.toNat
  := by
  rw [between, List.mem_map]
  constructor
  · rintro ⟨n, hn, rfl⟩
    rw [List.mem_range'_1] at hn
    have hvalid : n.isValidChar := .inl (by omega)
    have hnat : (Char.ofNat n).toNat = n := by
      rw [Char.ofNat, dif_pos hvalid]
      rfl
    omega
  · intro h
    use c.toNat
    rw [List.mem_range'_1]
    use by omega
    apply Char.ofNat_toNat

theorem mem_segmentChars_iff (c : Char) :
  c ∈ segmentChars ↔ isSegmentChar c = true
  := by
  simp only [segmentChars, List.mem_append, List.mem_singleton]
  rw [mem_between_iff (by decide), mem_between_iff (by decide), mem_between_iff (by decide),
    isSegmentChar, Char.isAlphanum, Bool.or_eq_true, Bool.or_eq_true, Text.isAlpha_iff,
    Text.isDigit_iff, beq_iff_eq]
  rfl

theorem mem_segmentPattern_iff {cs : List Char} :
  cs ∈ segmentPattern.matches' ↔ IsSegment cs
  := by
  simp only [segmentPattern, mem_repeated_oneOf_iff, IsSegment, mem_segmentChars_iff]

/-! ### Qualified names -/

/-- Segments with dots between them are a segment, and dots with a segment behind each. -/
theorem intercalate_cons (part : List Char) (parts : List (List Char)) :
  ['.'].intercalate (part :: parts) = part ++ (parts.map ('.' :: ·)).flatten
  := by
  induction parts generalizing part with
  | nil => simp
  | cons part' parts ih =>
      rw [List.intercalate_cons_cons, ih]
      simp

theorem mem_dotted_iff {cs : List Char} :
  cs ∈ (char '.' * segmentPattern).star.matches'
    ↔ ∃ parts : List (List Char), (∀ part ∈ parts, IsSegment part)
      ∧ cs = (parts.map ('.' :: ·)).flatten
  := by
  rw [matches'_star, matches'_mul, matches'_char, Language.mem_kstar]
  constructor
  · rintro ⟨words, rfl, hwords⟩
    use words.map List.tail
    have hword : ∀ word ∈ words, ∃ part, IsSegment part ∧ word = '.' :: part := by
      intro word hword
      obtain ⟨dot, rfl, part, hpart, rfl⟩ := Language.mem_mul.mp (hwords word hword)
      use part, mem_segmentPattern_iff.mp hpart
      rfl
    constructor
    · rw [List.forall_mem_map]
      intro word hmem
      obtain ⟨part, hpart, rfl⟩ := hword word hmem
      apply hpart
    · rw [List.map_map]
      congr 1
      symm
      apply (List.map_congr_left _).trans (List.map_id words)
      intro word hmem
      obtain ⟨part, -, rfl⟩ := hword word hmem
      rfl
  · rintro ⟨parts, hparts, rfl⟩
    use parts.map ('.' :: ·), rfl
    rw [List.forall_mem_map]
    intro part hpart
    apply Language.mem_mul.mpr
    use ['.'], rfl, part, mem_segmentPattern_iff.mpr (hparts part hpart)
    rfl

theorem mem_qualifiedPattern_iff {name : String} :
  name.toList ∈ qualifiedPattern.matches' ↔ IsQualifiedName name
  := by
  rw [qualifiedPattern, matches'_mul, Language.mem_mul, IsQualifiedName]
  constructor
  · rintro ⟨part, hpart, rest, hrest, hname⟩
    obtain ⟨parts, hparts, rfl⟩ := mem_dotted_iff.mp hrest
    use part :: parts, List.cons_ne_nil _ _
    rw [List.forall_mem_cons, intercalate_cons]
    use ⟨mem_segmentPattern_iff.mp hpart, hparts⟩, hname.symm
  · rintro ⟨parts, hne, hparts, hname⟩
    obtain ⟨part, parts, rfl⟩ := List.exists_cons_of_ne_nil hne
    rw [List.forall_mem_cons] at hparts
    rw [hname, intercalate_cons]
    use part, mem_segmentPattern_iff.mpr hparts.1, (parts.map ('.' :: ·)).flatten
    use mem_dotted_iff.mpr ⟨parts, hparts.2, rfl⟩

/-! ### The last dot -/

/-- What a name is divided into: a segment alone, or a qualified name and a segment with a dot
between them. -/
inductive DividedAtLastDot : String → Option String × String → Prop where
  | whole {name : String} (h : IsColumnName name) : DividedAtLastDot name (none, name)
  | schema {schema name : String} (hschema : IsQualifiedName schema) (hname : IsColumnName name) :
      DividedAtLastDot (schema ++ "." ++ name) (some schema, name)

theorem splitSchema_of_not_mem {i : Ident} (h : '.' ∉ i.text.toList) :
  i.splitSchema = (none, i.text)
  := by
  have hall : ∀ c ∈ i.text.toList.reverse, (c != '.') = true := by
    intro c hc
    rw [List.mem_reverse] at hc
    rw [bne_iff_ne]
    rintro rfl
    contradiction
  rw [splitSchema, List.takeWhile_eq_self_iff.mpr hall, List.dropWhile_eq_nil_iff.mpr hall,
    List.reverse_reverse, String.ofList_toList]

theorem splitSchema_of_append {i : Ident} {front last : List Char}
    (h : i.text.toList = front ++ '.' :: last) (hlast : '.' ∉ last) :
  i.splitSchema = (some (String.ofList front), String.ofList last)
  := by
  have hall : ∀ c ∈ last.reverse, (c != '.') = true := by
    intro c hc
    rw [List.mem_reverse] at hc
    rw [bne_iff_ne]
    rintro rfl
    contradiction
  have hreversed : i.text.toList.reverse = last.reverse ++ '.' :: front.reverse := by
    simp [h]
  rw [splitSchema, hreversed, List.takeWhile_append_of_pos hall, List.dropWhile_append_of_pos hall]
  simp

theorem IsSegment.not_mem {cs : List Char} (h : IsSegment cs) :
  '.' ∉ cs
  := by
  intro hmem
  have hdot := h.2 '.' hmem
  contradiction

theorem IsColumnName.ne_empty {name : String} (h : IsColumnName name) :
  name ≠ ""
  := by
  rintro rfl
  apply h.1 rfl

theorem intercalate_concat {parts : List (List Char)} (h : parts ≠ []) (last : List Char) :
  ['.'].intercalate (parts ++ [last]) = ['.'].intercalate parts ++ '.' :: last
  := by
  obtain ⟨part, parts, rfl⟩ := List.exists_cons_of_ne_nil h
  rw [List.cons_append, intercalate_cons, intercalate_cons]
  simp

theorem dividedAtLastDot_splitSchema (i : Ident) :
  DividedAtLastDot i.text i.splitSchema
  := by
  obtain ⟨parts, hne, hparts, htext⟩ := (isQualified_iff i.text.toList).mp i.valid
  obtain ⟨front, last, rfl⟩ : ∃ front last, parts = front ++ [last] := by
    use parts.dropLast, parts.getLast hne
    rw [List.dropLast_append_getLast]
  rw [List.forall_mem_append, List.forall_mem_singleton] at hparts
  obtain ⟨hfront, hlast⟩ := hparts
  by_cases hempty : front = []
  · have hname : i.text.toList = last := by
      simpa [hempty] using htext
    rw [splitSchema_of_not_mem]
    · apply DividedAtLastDot.whole
      rw [IsColumnName, hname]
      apply hlast
    · rw [hname]
      apply hlast.not_mem
  · rw [intercalate_concat hempty] at htext
    have hsplit :
        i.text = String.ofList (['.'].intercalate front) ++ "." ++ String.ofList last := by
      rw [← String.toList_inj, htext]
      simp
    rw [splitSchema_of_append htext hlast.not_mem, hsplit]
    apply DividedAtLastDot.schema
    · use front, hempty, hfront
      rw [String.toList_ofList]
    · rw [IsColumnName, String.toList_ofList]
      apply hlast

/-! ### Exactness -/

/-- The text of an identifier is written behind any fragment as it is. -/
theorem sql_append_ident (f : Fragment) (i : Ident) :
  (f ++ Fragment.ident i).sql = f.sql ++ i.text
  := by
  rw [← String.toList_inj, Fragment.toList_sql, Fragment.symbols_append, Symbol.write_append,
    Fragment.symbols_ident, Symbol.write_map_char, String.toList_append, Fragment.toList_sql]

/-- A text is taken for the name of a column, or for a qualified name, exactly when it matches the
expression for it. The identifier is the text, and it is divided at the last dot into a segment and,
exactly when there is a dot, the qualified name in front of it. -/
theorem taken_iff_matches (name : String) :
  ((∃ i, column name = .ok i) ↔ name.toList ∈ segmentPattern.matches')
    ∧ ((∃ i, qualified name = .ok i) ↔ name.toList ∈ qualifiedPattern.matches')
    ∧ ∀ i, column name = .ok i ∨ qualified name = .ok i →
      i.text = name ∧ (∀ f : Fragment, (f ++ Fragment.ident i).sql = f.sql ++ name)
      ∧ i.splitSchema.2 ≠ "" ∧ '.' ∉ i.splitSchema.2.toList
      ∧ (i.splitSchema.1.isSome = true ↔ '.' ∈ name.toList)
      ∧ ∀ schema, i.splitSchema.1 = some schema →
        (∃ j, qualified schema = .ok j) ∧ schema ++ "." ++ i.splitSchema.2 = name
  := by
  use by rw [exists_column_iff, mem_segmentPattern_iff, IsColumnName]
  use by rw [exists_qualified_iff, mem_qualifiedPattern_iff]
  intro i hi
  have htext : i.text = name := by
    rcases hi with h | h
    · apply text_of_column h
    · apply text_of_qualified h
  have hdivided := dividedAtLastDot_splitSchema i
  use htext, fun f => htext ▸ sql_append_ident f i
  rw [htext] at hdivided
  generalize i.splitSchema = halves at hdivided
  cases hdivided with
  | whole h =>
      use h.ne_empty, h.not_mem
      simpa using h.not_mem
  | schema hschema hname =>
      use hname.ne_empty, hname.not_mem
      use by simp
      rintro _ ⟨⟩
      use exists_qualified_iff.mpr hschema

/-- A name with two dots is divided at the second. -/
theorem taken_iff_matches_archived :
  ∃ i, qualified "mes.archive.lot_2" = .ok i ∧ i.splitSchema = (some "mes.archive", "lot_2")
    ∧ (∃ j, qualified "mes.archive" = .ok j)
    ∧ (Fragment.text "SELECT * FROM " ++ Fragment.ident i).sql = "SELECT * FROM mes.archive.lot_2"
  := by
  have hname : IsQualifiedName "mes.archive.lot_2" := by
    rw [IsQualifiedName, ← isQualified_iff]
    decide +kernel
  obtain ⟨i, hi⟩ := exists_qualified_iff.mpr hname
  obtain ⟨htext, hsql, -, -, -, hschema⟩ :=
    (taken_iff_matches "mes.archive.lot_2").2.2 i (.inr hi)
  have hdotted : i.text.toList = "mes.archive".toList ++ '.' :: "lot_2".toList := by
    rw [htext]
    decide +kernel
  have hsplit : i.splitSchema = (some "mes.archive", "lot_2") :=
    splitSchema_of_append hdotted (by decide)
  use i, hi, hsplit, (hschema "mes.archive" (by rw [hsplit])).1
  rw [hsql]
  decide +kernel

end BoundSql.Ident
