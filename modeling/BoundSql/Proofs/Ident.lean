import BoundSql.Error
import BoundSql.Proofs.Result

/-!
# The grammar of names

A segment is a text of ASCII letters, digits and underscores that is not empty. A
qualified name is made of segments with dots between them, and the name of a
column is a single segment. A text is taken for an identifier exactly when it is
in the grammar, and the identifier is written like the text. Any other text is
refused for the first of its faults: it is empty, it has a character that is in
no name, or its dots are where none may be.
-/

namespace BoundSql.Ident

/-- A text of letters, digits and underscores that is not empty. -/
def IsSegment (cs : List Char) : Prop :=
  cs ≠ [] ∧ ∀ c ∈ cs, isSegmentChar c = true

/-- A text of segments with dots between them. -/
def IsQualifiedName (name : String) : Prop :=
  ∃ parts : List (List Char), parts ≠ [] ∧ (∀ part ∈ parts, IsSegment part)
    ∧ name.toList = ['.'].intercalate parts

/-- A text of a single segment. -/
def IsColumnName (name : String) : Prop :=
  IsSegment name.toList

instance (cs : List Char) : Decidable (IsSegment cs) :=
  decidable_of_iff (cs ≠ [] ∧ cs.all isSegmentChar = true) (by simp [IsSegment])

instance (name : String) : Decidable (IsColumnName name) :=
  inferInstanceAs (Decidable (IsSegment name.toList))

/-! ### Faults -/

/-- What is wrong with a text whose characters are not those of a name: there are none, or one of
them is the first that is in no name. -/
inductive SpellingFault (name : String) : NameFault → Prop where
  | empty (h : name = "") : SpellingFault name .empty
  | badCharacter {before after : List Char} {c : Char} (h : name.toList = before ++ c :: after)
      (hbefore : ∀ b ∈ before, isNameChar b = true) (hc : isNameChar c = false) :
      SpellingFault name (.badCharacter c name)

/-- What is wrong with a text that is to be a qualified name: its spelling, or a dot that has no
segment on one of its sides. -/
inductive QualifiedFault (name : String) : NameFault → Prop where
  | spelling {fault : NameFault} (h : SpellingFault name fault) : QualifiedFault name fault
  | emptySegment (h : ∀ fault, ¬ SpellingFault name fault) (hempty : [] ∈ name.toList.splitOn '.') :
      QualifiedFault name (.emptySegment name)

/-- What is wrong with a text that is to be the name of a column: its spelling, or a dot. -/
inductive ColumnFault (name : String) : NameFault → Prop where
  | spelling {fault : NameFault} (h : SpellingFault name fault) : ColumnFault name fault
  | qualified (h : ∀ fault, ¬ SpellingFault name fault) (hdot : '.' ∈ name.toList) :
      ColumnFault name (.qualifiedColumn name)

section

variable {name : String} {fault : NameFault}

theorem isSegmentChar_iff (c : Char) :
  isSegmentChar c = true ↔ isNameChar c = true ∧ c ≠ '.'
  := by
  constructor
  · intro h
    constructor
    · rw [isNameChar, h, Bool.true_or]
    · rintro rfl
      contradiction
  · rintro ⟨h, hdot⟩
    simpa [isNameChar, hdot] using h

/-- A text that is not empty is spelled badly exactly when a character in it is in no name, and the
first of them is its fault. -/
theorem spellingFault_iff (hne : name.toList ≠ []) :
  SpellingFault name fault
    ↔ ∃ c, name.toList.find? (!isNameChar ·) = some c ∧ fault = .badCharacter c name
  := by
  constructor
  · intro h
    cases h with
    | empty h =>
        rw [h] at hne
        contradiction
    | @badCharacter before after c h hbefore hc =>
        use c
        rw [List.find?_eq_some_iff_append]
        simpa [hc] using ⟨before, ⟨after, h⟩, hbefore⟩
  · rintro ⟨c, hfind, rfl⟩
    obtain ⟨hc, before, after, h, hbefore⟩ := List.find?_eq_some_iff_append.mp hfind
    apply SpellingFault.badCharacter h
    · simpa using hbefore
    · simpa using hc

theorem not_spellingFault_iff (hne : name.toList ≠ []) :
  (∀ fault, ¬ SpellingFault name fault) ↔ name.toList.find? (!isNameChar ·) = none
  := by
  simp only [spellingFault_iff hne]
  cases name.toList.find? (!isNameChar ·) with
  | none => simp
  | some c => simp

end

/-! ### Segments -/

theorem segments_eq_splitOn (cs : List Char) :
  segments cs = cs.splitOn '.'
  := by
  induction cs with
  | nil => rfl
  | cons c cs ih =>
      rw [segments, List.splitOn_cons_eq_if_modifyHead, ← ih]
      by_cases hc : c = '.'
      · simp [hc]
      · cases hsegments : segments cs with
        | nil =>
            rw [ih] at hsegments
            apply absurd hsegments (List.splitOn_ne_nil '.' cs)
        | cons s ss => simp [hc]

theorem mem_of_mem_segments {cs part : List Char} (h : part ∈ segments cs) :
  ∀ c ∈ part, c ∈ cs ∧ c ≠ '.'
  := by
  induction cs generalizing part with
  | nil =>
      obtain rfl := List.mem_singleton.mp h
      simp
  | cons d cs ih =>
      rw [segments] at h
      intro c hc
      split at h
      · rcases List.mem_cons.mp h with rfl | h
        · contradiction
        · use List.mem_cons_of_mem d (ih h c hc).1, (ih h c hc).2
      · next hd =>
          split at h
          · obtain rfl := List.mem_singleton.mp h
            obtain rfl := List.mem_singleton.mp hc
            use List.mem_cons_self
          · next s ss hsegments =>
              rw [hsegments] at ih
              rcases List.mem_cons.mp h with rfl | h
              · rcases List.mem_cons.mp hc with rfl | hc
                · use List.mem_cons_self
                · have hmem := ih List.mem_cons_self c hc
                  use List.mem_cons_of_mem d hmem.1, hmem.2
              · have hmem := ih (List.mem_cons_of_mem s h) c hc
                use List.mem_cons_of_mem d hmem.1, hmem.2

/-- The characters between dots and the dots are all of the characters. -/
theorem forall_mem_intercalate {parts : List (List Char)}
    (h : ∀ part ∈ parts, ∀ c ∈ part, isNameChar c = true) :
  ∀ c ∈ ['.'].intercalate parts, isNameChar c = true
  := by
  induction parts with
  | nil => simp
  | cons part parts ih =>
      rw [List.forall_mem_cons] at h
      cases parts with
      | nil => simpa using h.1
      | cons part' parts =>
          rw [List.intercalate_cons_cons, List.forall_mem_append, List.forall_mem_append]
          use ⟨h.1, by simp [isNameChar]⟩
          apply ih h.2

theorem isQualified_iff (cs : List Char) :
  isQualified cs = true
    ↔ ∃ parts : List (List Char), parts ≠ [] ∧ (∀ part ∈ parts, IsSegment part)
      ∧ cs = ['.'].intercalate parts
  := by
  rw [isQualified, Bool.and_eq_true, List.all_eq_true, List.all_eq_true]
  constructor
  · rintro ⟨hchars, hfull⟩
    use segments cs
    refine ⟨?_, ?_, ?_⟩
    · rw [segments_eq_splitOn]
      apply List.splitOn_ne_nil
    · intro part hpart
      constructor
      · simpa using hfull part hpart
      · intro c hc
        obtain ⟨hmem, hdot⟩ := mem_of_mem_segments hpart c hc
        rw [isSegmentChar_iff]
        use hchars c hmem
    · rw [segments_eq_splitOn, List.intercalate_splitOn]
  · rintro ⟨parts, hne, hparts, rfl⟩
    constructor
    · apply forall_mem_intercalate
      intro part hpart c hc
      apply ((isSegmentChar_iff c).mp ((hparts part hpart).2 c hc)).1
    · have hdot : ∀ part ∈ parts, '.' ∉ part := by
        intro part hpart hmem
        have hsegment := (hparts part hpart).2 '.' hmem
        contradiction
      rw [segments_eq_splitOn, List.splitOn_intercalate '.' hdot hne]
      intro part hpart
      simpa using (hparts part hpart).1

/-! ### Identifiers of names -/

section

variable {name : String} {fault : NameFault}

/-- A text that is spelled like a name is not empty and has no bad character. -/
theorem spelled (h : ∀ fault, ¬ SpellingFault name fault) :
  name.toList ≠ [] ∧ name.toList.find? (!isNameChar ·) = none
  := by
  have hne : name.toList ≠ [] := by
    intro hempty
    apply h .empty (.empty (String.toList_eq_nil_iff.mp hempty))
  use hne
  rw [← not_spellingFault_iff hne]
  apply h

theorem qualified?_of_spellingFault (h : SpellingFault name fault) :
  qualified? name = .error fault
  := by
  rw [qualified?]
  by_cases hne : name.toList = []
  · cases h with
    | empty => rw [if_pos hne]
    | badCharacter h => simp [h] at hne
  · obtain ⟨c, hfind, rfl⟩ := (spellingFault_iff hne).mp h
    rw [if_neg hne, hfind]

theorem column?_of_spellingFault (h : SpellingFault name fault) :
  column? name = .error fault
  := by
  rw [column?]
  by_cases hne : name.toList = []
  · cases h with
    | empty => rw [dif_pos hne]
    | badCharacter h => simp [h] at hne
  · obtain ⟨c, hfind, rfl⟩ := (spellingFault_iff hne).mp h
    rw [dif_neg hne]
    split
    · next c' hfind' =>
        rw [hfind] at hfind'
        obtain rfl := Option.some.inj hfind'
        rfl
    · next hnone =>
        rw [hfind] at hnone
        contradiction

theorem qualified?_of_spelled (h : ∀ fault, ¬ SpellingFault name fault) :
  qualified? name
    = if hvalid : isQualified name.toList = true then .ok ⟨name, hvalid⟩
      else .error (.emptySegment name)
  := by
  obtain ⟨hne, hnone⟩ := spelled h
  rw [qualified?, if_neg hne, hnone]

theorem column?_of_dotted (h : ∀ fault, ¬ SpellingFault name fault) (hdot : '.' ∈ name.toList) :
  column? name = .error (.qualifiedColumn name)
  := by
  obtain ⟨hne, hnone⟩ := spelled h
  rw [column?, dif_neg hne]
  split
  · next hsome =>
      rw [hnone] at hsome
      contradiction
  · rw [dif_pos hdot]

theorem not_spellingFault_of_nameChars (hne : name.toList ≠ [])
    (h : ∀ c ∈ name.toList, isNameChar c = true) :
  ∀ fault, ¬ SpellingFault name fault
  := by
  rw [not_spellingFault_iff hne, List.find?_eq_none]
  simpa using h

/-! ### Qualified names -/

theorem text_of_qualified? {i : Ident} (h : qualified? name = .ok i) :
  i.text = name
  := by
  rw [qualified?] at h
  split at h
  · contradiction
  · split at h
    · contradiction
    · split at h
      · obtain rfl := Except.ok.inj h
        rfl
      · contradiction

theorem exists_qualified?_iff :
  (∃ i, qualified? name = .ok i) ↔ isQualified name.toList = true
  := by
  constructor
  · rintro ⟨i, h⟩
    rw [← text_of_qualified? h]
    apply i.valid
  · intro h
    obtain ⟨parts, hne, hparts, hname⟩ := (isQualified_iff name.toList).mp h
    have hspelled : ∀ fault, ¬ SpellingFault name fault := by
      apply not_spellingFault_of_nameChars
      · rintro hempty
        rw [hempty] at h
        contradiction
      · rw [isQualified, Bool.and_eq_true, List.all_eq_true] at h
        apply h.1
    use ⟨name, h⟩
    rw [qualified?_of_spelled hspelled, dif_pos h]

/-- A text that is spelled like a name is no qualified name exactly when a segment is empty. -/
theorem isQualified_eq_false_iff (h : ∀ fault, ¬ SpellingFault name fault) :
  ¬ isQualified name.toList = true ↔ [] ∈ name.toList.splitOn '.'
  := by
  obtain ⟨_, hnone⟩ := spelled h
  have hchars : name.toList.all isNameChar = true := by simpa using hnone
  rw [isQualified, hchars, Bool.true_and, segments_eq_splitOn]
  simp

theorem qualified?_eq_error_iff :
  qualified? name = .error fault ↔ QualifiedFault name fault
  := by
  constructor
  · intro h
    by_cases hspelled : ∃ fault', SpellingFault name fault'
    · obtain ⟨fault', hfault⟩ := hspelled
      rw [qualified?_of_spellingFault hfault] at h
      obtain rfl := Except.error.inj h
      apply QualifiedFault.spelling hfault
    · rw [not_exists] at hspelled
      rw [qualified?_of_spelled hspelled] at h
      split at h
      · contradiction
      · next hinvalid =>
          obtain rfl := Except.error.inj h
          apply QualifiedFault.emptySegment hspelled
          apply (isQualified_eq_false_iff hspelled).mp hinvalid
  · intro h
    cases h with
    | spelling h => apply qualified?_of_spellingFault h
    | emptySegment h hempty =>
        rw [qualified?_of_spelled h, dif_neg ((isQualified_eq_false_iff h).mpr hempty)]

/-! ### Names of columns -/

theorem text_of_column? {i : Ident} (h : (column? name).toOption = some i) :
  i.text = name
  := by
  rw [column?] at h
  split at h
  · contradiction
  · split at h
    · contradiction
    · split at h
      · contradiction
      · obtain rfl := Option.some.inj h
        rfl

/-- A column name is a text that is spelled like a name and has no dot. -/
theorem isColumnName_iff :
  IsColumnName name ↔ (∀ fault, ¬ SpellingFault name fault) ∧ '.' ∉ name.toList
  := by
  constructor
  · rintro ⟨hne, hchars⟩
    constructor
    · apply not_spellingFault_of_nameChars hne
      intro c hc
      apply ((isSegmentChar_iff c).mp (hchars c hc)).1
    · intro hdot
      have hsegment := hchars '.' hdot
      contradiction
  · rintro ⟨h, hdot⟩
    obtain ⟨hne, hnone⟩ := spelled h
    use hne
    intro c hc
    rw [isSegmentChar_iff]
    constructor
    · simpa using List.find?_eq_none.mp hnone c hc
    · rintro rfl
      contradiction

theorem exists_column?_iff :
  (∃ i, column? name = .ok i) ↔ IsColumnName name
  := by
  rw [isColumnName_iff]
  constructor
  · rintro ⟨i, h⟩
    have hspelled : ∀ fault, ¬ SpellingFault name fault := by
      intro fault hfault
      rw [column?_of_spellingFault hfault] at h
      contradiction
    use hspelled
    intro hdot
    rw [column?_of_dotted hspelled hdot] at h
    contradiction
  · rintro ⟨hspelled, hdot⟩
    obtain ⟨hne, hnone⟩ := spelled hspelled
    rw [column?, dif_neg hne]
    split
    · next hsome =>
        rw [hnone] at hsome
        contradiction
    · rw [dif_neg hdot]
      exact ⟨_, rfl⟩

theorem column?_eq_error_iff :
  column? name = .error fault ↔ ColumnFault name fault
  := by
  constructor
  · intro h
    by_cases hspelled : ∃ fault', SpellingFault name fault'
    · obtain ⟨fault', hfault⟩ := hspelled
      rw [column?_of_spellingFault hfault] at h
      obtain rfl := Except.error.inj h
      apply ColumnFault.spelling hfault
    · rw [not_exists] at hspelled
      by_cases hdot : '.' ∈ name.toList
      · rw [column?_of_dotted hspelled hdot] at h
        obtain rfl := Except.error.inj h
        apply ColumnFault.qualified hspelled hdot
      · obtain ⟨i, hi⟩ := exists_column?_iff.mpr (isColumnName_iff.mpr ⟨hspelled, hdot⟩)
        rw [hi] at h
        contradiction
  · intro h
    cases h with
    | spelling h => apply column?_of_spellingFault h
    | qualified h hdot => apply column?_of_dotted h hdot

/-! ### Errors -/

variable {err : Error}

theorem text_of_qualified {i : Ident} (h : qualified name = .ok i) :
  i.text = name
  := text_of_qualified? (mapError_eq_ok_iff.mp h)

theorem text_of_column {i : Ident} (h : column name = .ok i) :
  i.text = name
  := text_of_column? (congrArg Except.toOption (mapError_eq_ok_iff.mp h))

/-- A text is taken for a qualified name exactly when it is one. -/
theorem exists_qualified_iff :
  (∃ i, qualified name = .ok i) ↔ IsQualifiedName name
  := by
  simp only [qualified, mapError_eq_ok_iff]
  rw [exists_qualified?_iff, isQualified_iff, IsQualifiedName]

/-- A text is taken for the name of a column exactly when it is one. -/
theorem exists_column_iff :
  (∃ i, column name = .ok i) ↔ IsColumnName name
  := by
  simp only [column, mapError_eq_ok_iff]
  apply exists_column?_iff

/-- A text without a fault is the name of a column, and only such a text. -/
theorem not_columnFault_iff :
  (∀ fault, ¬ ColumnFault name fault) ↔ IsColumnName name
  := by
  rw [← exists_column?_iff]
  simp only [← column?_eq_error_iff]
  cases column? name with
  | error fault => simp
  | ok i => simp

theorem qualified_eq_error_iff :
  qualified name = .error err ↔ ∃ fault, QualifiedFault name fault ∧ err = .badName fault
  := by
  simp only [qualified, mapError_eq_error_iff, qualified?_eq_error_iff]

theorem column_eq_error_iff :
  column name = .error err ↔ ∃ fault, ColumnFault name fault ∧ err = .badName fault
  := by
  simp only [column, mapError_eq_error_iff, column?_eq_error_iff]

end

end BoundSql.Ident
