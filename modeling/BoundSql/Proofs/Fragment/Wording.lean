import BoundSql.Fragment
import Mathlib.Tactic.Use

/-!
# Wordings

The wording of a fragment is its texts and the places of its values. The text of
the finished statement depends on the wording alone, and it is written with the
characters of the wording and those of placeholders.
-/

namespace BoundSql

open BoundSql.Text

theorem Ident.nameChars (i : Ident) :
  ∀ c ∈ i.text.toList, isNameChar c = true
  := by
  have h := i.valid
  rw [isQualified, Bool.and_eq_true, List.all_eq_true] at h
  apply h.1

/-- A character of a name, or one of the signs in the wording of statements. -/
def isWordingChar (c : Char) : Bool :=
  Ident.isNameChar c || " (),=<>*".toList.contains c

/-- Whether a text is made of such characters. -/
def isWording (s : String) : Bool :=
  s.toList.all isWordingChar

/-- A piece with nothing for its value. -/
def Piece.outline : Piece → Piece
  | .text s => .text s
  | .bound _ => .bound .null

namespace Fragment

/-! ### Outlines -/

/-- A fragment with nothing for its values. -/
def outline (f : Fragment) : Fragment :=
  ⟨f.pieces.map Piece.outline⟩

@[simp]
theorem outline_empty :
  empty.outline = empty
  := rfl

@[simp]
theorem outline_append (f g : Fragment) :
  (f ++ g).outline = f.outline ++ g.outline
  := by
  show Fragment.mk _ = Fragment.mk _
  simp [outline]

@[simp]
theorem outline_text (s : String) :
  (text s).outline = text s
  := by
  rw [text]
  split
  · rfl
  · rfl

@[simp]
theorem outline_ident (i : Ident) :
  (ident i).outline = ident i
  := rfl

@[simp]
theorem outline_bound (v : Value) :
  (bound v).outline = bound .null
  := rfl

theorem isEmpty_outline (f : Fragment) :
  f.outline.isEmpty = f.isEmpty
  := by
  simp [outline, isEmpty]

theorem outline_intercalate (f : Fragment) (fs : List Fragment) :
  (intercalate f fs).outline = intercalate f.outline (fs.map outline)
  := by
  induction fs with
  | nil => rfl
  | cons g fs ih =>
      cases fs with
      | nil => rfl
      | cons g' fs =>
          rw [intercalate, outline_append, outline_append, ih]
          rfl

theorem outline_joined (s : String) (fs : List Fragment) :
  (joined s fs).outline = joined s (fs.map outline)
  := by
  have hfilter : (fs.map outline).filter (!·.isEmpty) = (fs.filter (!·.isEmpty)).map outline := by
    rw [List.filter_map]
    congr 2
    funext f
    apply congrArg (! ·) (isEmpty_outline f)
  rw [joined, joined, hfilter, outline_intercalate, outline_text]

/-- Values in a list leave no trace but their number. -/
theorem outline_boundList (vs : List Value) :
  (boundList vs).outline = boundList (List.replicate vs.length .null)
  := by
  cases vs with
  | nil => simp [boundList]
  | cons v vs =>
      have hbound : (v :: vs).map (outline ∘ bound)
          = (List.replicate (v :: vs).length Value.null).map bound := by
        rw [List.map_replicate, ← List.map_const']
        rfl
      rw [boundList, outline_intercalate, outline_text, List.map_map, hbound]
      · rfl
      · simp

theorem renderFrom_outline (n : Nat) (ps : List Piece) :
  renderFrom n (ps.map Piece.outline) = renderFrom n ps
  := by
  induction ps generalizing n with
  | nil => rfl
  | cons p ps ih =>
      cases p with
      | text s => simp [Piece.outline, renderFrom, ih]
      | bound v => simp [Piece.outline, renderFrom, ih]

/-- Values have no influence on the text. -/
theorem sql_outline (f : Fragment) :
  f.outline.sql = f.sql
  := by
  rw [sql, outline, renderFrom_outline, sql]

theorem sql_eq_of_outline {f g : Fragment} (h : f.outline = g.outline) :
  f.sql = g.sql
  := by
  rw [← sql_outline f, h, sql_outline]

/-! ### Alphabets -/

/-- All texts of a fragment are written with certain characters. -/
def WrittenIn (f : Fragment) (p : Char → Prop) : Prop :=
  ∀ s, .text s ∈ f.pieces → ∀ c ∈ s.toList, p c

section

variable {p q : Char → Prop} {f g : Fragment} {s : String}

theorem WrittenIn.mono (h : f.WrittenIn p) (hpq : ∀ c, p c → q c) :
  f.WrittenIn q
  := by
  intro s hs c hc
  apply hpq c (h s hs c hc)

theorem writtenIn_empty :
  empty.WrittenIn p
  := by
  intro s hs
  contradiction

theorem writtenIn_append :
  (f ++ g).WrittenIn p ↔ f.WrittenIn p ∧ g.WrittenIn p
  := by
  simp only [WrittenIn, pieces_append, List.mem_append, or_imp, forall_and]

theorem writtenIn_text (h : ∀ c ∈ s.toList, p c) :
  (text s).WrittenIn p
  := by
  rw [text]
  split
  · apply writtenIn_empty
  · intro t ht
    obtain rfl : t = s := by simpa using ht
    apply h

theorem writtenIn_ident (h : ∀ c, Ident.isNameChar c = true → p c) (i : Ident) :
  (ident i).WrittenIn p
  := by
  intro t ht c hc
  obtain rfl : t = i.text := by simpa [ident] using ht
  apply h c (i.nameChars c hc)

theorem writtenIn_bound (v : Value) :
  (bound v).WrittenIn p
  := by
  intro t ht
  simp [bound] at ht

theorem writtenIn_intercalate (hf : f.WrittenIn p) {fs : List Fragment}
    (h : ∀ g ∈ fs, g.WrittenIn p) :
  (intercalate f fs).WrittenIn p
  := by
  induction fs with
  | nil => apply writtenIn_empty
  | cons g fs ih =>
      rw [List.forall_mem_cons] at h
      cases fs with
      | nil => apply h.1
      | cons g' fs =>
          rw [intercalate, writtenIn_append, writtenIn_append]
          use ⟨h.1, hf⟩
          apply ih h.2

theorem writtenIn_joined (hs : ∀ c ∈ s.toList, p c) {fs : List Fragment}
    (h : ∀ g ∈ fs, g.WrittenIn p) :
  (joined s fs).WrittenIn p
  := by
  apply writtenIn_intercalate (writtenIn_text hs)
  intro g hg
  apply h g (List.mem_filter.mp hg).1

/-- The text of a statement is written with the characters of its fragment and those of
placeholders. -/
theorem mem_sql (h : f.WrittenIn p) (hdollar : p '$') (hdigit : ∀ c, c.isDigit = true → p c) :
  ∀ c ∈ f.sql.toList, p c
  := by
  have hrender : ∀ (ps : List Piece) (n : Nat), WrittenIn ⟨ps⟩ p → ∀ c ∈ renderFrom n ps, p c := by
    intro ps
    induction ps with
    | nil =>
        intro n _ c hc
        contradiction
    | cons piece ps ih =>
        intro n hps c hc
        have hrest : WrittenIn ⟨ps⟩ p := by
          intro s hs
          apply hps s (List.mem_cons_of_mem _ hs)
        cases piece with
        | text s =>
            rw [renderFrom, List.mem_append] at hc
            rcases hc with hc | hc
            · apply hps s List.mem_cons_self c hc
            · apply ih n hrest c hc
        | bound v =>
            rw [renderFrom, List.mem_append, placeholder, List.mem_cons] at hc
            rcases hc with (rfl | hc) | hc
            · apply hdollar
            · apply hdigit c (isDigit_of_mem_digits hc)
            · apply ih (n + 1) hrest c hc
  rw [sql, String.toList_ofList]
  apply hrender f.pieces 0 h

end

/-! ### Plain wording -/

/-- A fragment is plainly worded when its texts have only characters of names and a few signs. -/
def Plain (f : Fragment) : Prop :=
  f.WrittenIn (isWordingChar · = true)

theorem plain_empty :
  empty.Plain
  := writtenIn_empty

theorem plain_append {f g : Fragment} :
  (f ++ g).Plain ↔ f.Plain ∧ g.Plain
  := writtenIn_append

theorem plain_text {s : String} (h : isWording s = true) :
  (text s).Plain
  := writtenIn_text (List.all_eq_true.mp h)

theorem plain_ident (i : Ident) :
  (ident i).Plain
  := by
  apply writtenIn_ident
  intro c hc
  rw [isWordingChar, hc, Bool.true_or]

theorem plain_bound (v : Value) :
  (bound v).Plain
  := writtenIn_bound v

theorem plain_intercalate {f : Fragment} (hf : f.Plain) {fs : List Fragment}
    (h : ∀ g ∈ fs, g.Plain) :
  (intercalate f fs).Plain
  := writtenIn_intercalate hf h

theorem plain_joined {s : String} (hs : isWording s = true) {fs : List Fragment}
    (h : ∀ g ∈ fs, g.Plain) :
  (joined s fs).Plain
  := writtenIn_joined (List.all_eq_true.mp hs) h

theorem plain_boundList (vs : List Value) :
  (boundList vs).Plain
  := by
  cases vs with
  | nil => apply plain_text (by decide)
  | cons v vs =>
      apply plain_intercalate (plain_text (by decide))
      rw [List.forall_mem_map]
      intro w _
      apply plain_bound

/-- The text of a plainly worded fragment has only characters of names, a few signs, and the dollar
signs of placeholders. -/
theorem Plain.mem_sql {f : Fragment} (h : f.Plain) :
  ∀ c ∈ f.sql.toList, c = '$' ∨ isWordingChar c = true
  := by
  have hdollar := h.mono (q := fun c => c = '$' ∨ isWordingChar c = true) fun c hc => .inr hc
  apply Fragment.mem_sql hdollar
  · left
    rfl
  · intro c hc
    right
    simp [isWordingChar, Ident.isNameChar, Ident.isSegmentChar, Char.isAlphanum, hc]

end Fragment

end BoundSql
