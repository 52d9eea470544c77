import BoundSql.Proofs.Fragment.Wording
import Mathlib.Data.List.Chain

/-!
# Symbols

The text of a statement is a sequence of symbols: characters, and placeholders,
each a dollar sign with the longest run of digits behind it. A fragment is
legible when its texts have no dollar sign and behind each of its values stands
nothing or a text that does not start like a name. The placeholders of a legible
fragment are numbered one after the other, and its text and its values tell its
symbols.
-/

namespace BoundSql

open BoundSql.Text

/-- A character, or a place for something that is no text. -/
inductive Symbol (α : Type) where
  | char (c : Char)
  | slot (a : α)
  deriving Repr

namespace Symbol

variable {α : Type}

/-- What stands in a place. -/
def slot? : Symbol α → Option α
  | .char _ => none
  | .slot a => some a

/-- A symbol that is no place followed by a character of a name. -/
def Separate : Symbol α → Symbol α → Prop
  | .slot _, .char c => Ident.isNameChar c = false
  | _, _ => True

/-- The symbols of a text: the digits behind each dollar sign, and the other characters. -/
def scan : List Char → List (Symbol (List Char))
  | [] => []
  | c :: r =>
    if c = '$' then .slot (r.takeWhile Char.isDigit) :: scan (r.dropWhile Char.isDigit)
    else .char c :: scan r
termination_by cs => cs.length
decreasing_by
  · apply Nat.lt_succ_of_le (List.dropWhile_suffix Char.isDigit).length_le
  · apply Nat.lt_succ_self

theorem scan_append {s : List Char} (h : ∀ c ∈ s, c ≠ '$') (r : List Char) :
  scan (s ++ r) = s.map .char ++ scan r
  := by
  induction s with
  | nil => rfl
  | cons c s ih =>
      rw [List.forall_mem_cons] at h
      rw [List.cons_append, scan, if_neg h.1, ih h.2]
      rfl

/-- The digits of a placeholder end where a character follows that is no digit. -/
theorem scan_placeholder {r : List Char} (h : ∀ c ∈ r.head?, c.isDigit = false) (n : Nat) :
  scan (Fragment.placeholder n ++ r) = .slot (digits n) :: scan r
  := by
  have hdigits : ∀ c ∈ digits n, c.isDigit = true := by
    intro c hc
    apply isDigit_of_mem_digits hc
  have hnone : r.takeWhile Char.isDigit = [] ∧ r.dropWhile Char.isDigit = r := by
    cases r with
    | nil => simp
    | cons c r => simp [h c rfl]
  rw [Fragment.placeholder, List.cons_append, scan, if_pos rfl,
    List.takeWhile_append_of_pos hdigits, List.dropWhile_append_of_pos hdigits, hnone.1, hnone.2,
    List.append_nil]

end Symbol

theorem Ident.isDigit_eq_false {c : Char} (h : isNameChar c = false) :
  c.isDigit = false
  := by
  simp only [isNameChar, isSegmentChar, Char.isAlphanum, Bool.or_eq_false_iff] at h
  apply h.1.1.2

/-- Whether a text has no dollar sign. -/
def isUndollared (s : String) : Bool :=
  s.toList.all (· != '$')

/-- Whether a text starts with a character that is in no name. -/
def startsApart (s : String) : Bool :=
  s.toList.head?.any (!Ident.isNameChar ·)

theorem ne_dollar_of_isUndollared {s : String} (h : isUndollared s = true) :
  ∀ c ∈ s.toList, c ≠ '$'
  := by
  simpa [isUndollared] using h

/-- A text that does not start like a name. -/
def Piece.OpensApart : Piece → Prop
  | .text s => startsApart s = true
  | .bound _ => False

/-- The symbols of a piece. -/
def Piece.symbols : Piece → List (Symbol Value)
  | .text s => s.toList.map .char
  | .bound v => [.slot v]

namespace Fragment

/-! ### Legible fragments -/

/-- A fragment opens apart when what is behind it in a statement cannot be taken for the rest of a
name in front of it. -/
def OpensApart (f : Fragment) : Prop :=
  ∀ p ∈ f.pieces.head?, p.OpensApart

/-- The texts of a fragment have no dollar sign, and behind each value stands nothing or a text that
does not start like a name. -/
structure Legible (f : Fragment) : Prop where
  undollared : f.WrittenIn (· ≠ '$')
  apart : f.pieces.IsChain fun p q => p.value?.isSome = true → q.OpensApart

section

variable {f g : Fragment} {s : String}

theorem opensApart_empty :
  empty.OpensApart
  := by
  intro p hp
  contradiction

theorem opensApart_text_append (h : startsApart s = true) (f : Fragment) :
  (text s ++ f).OpensApart
  := by
  have hne : s ≠ "" := by
    rintro rfl
    contradiction
  intro p hp
  obtain rfl : Piece.text s = p := by simpa [text, hne] using hp
  apply h

theorem opensApart_text (h : startsApart s = true) :
  (text s).OpensApart
  := by
  rw [← append_empty (text s)]
  apply opensApart_text_append h

theorem OpensApart.append (hf : f.OpensApart) (hg : g.OpensApart) :
  (f ++ g).OpensApart
  := by
  intro p hp
  rw [pieces_append, List.head?_append, Option.mem_def, Option.or_eq_some_iff] at hp
  rcases hp with hp | ⟨_, hp⟩
  · apply hf p hp
  · apply hg p hp

theorem legible_empty :
  empty.Legible
  := ⟨writtenIn_empty, List.IsChain.nil⟩

/-- Legible fragments one after the other are legible when the second opens apart. -/
theorem Legible.append (hf : f.Legible) (hg : g.Legible) (hopens : g.OpensApart) :
  (f ++ g).Legible
  := by
  constructor
  · apply writtenIn_append.mpr ⟨hf.undollared, hg.undollared⟩
  · rw [pieces_append, List.isChain_append]
    use hf.apart, hg.apart
    intro p _ q hq _
    apply hopens q hq

theorem legible_text_append (hs : isUndollared s = true) (hf : f.Legible) :
  (text s ++ f).Legible
  := by
  constructor
  · apply writtenIn_append.mpr ⟨writtenIn_text (ne_dollar_of_isUndollared hs), hf.undollared⟩
  · rw [text]
    split
    · apply hf.apart
    · apply List.isChain_cons.mpr
      use fun _ _ h => by simp [Piece.value?] at h, hf.apart

theorem legible_ident_append (i : Ident) (hf : f.Legible) :
  (ident i ++ f).Legible
  := by
  constructor
  · have hi : (ident i).WrittenIn (· ≠ '$') := by
      apply writtenIn_ident
      rintro c hc rfl
      contradiction
    apply writtenIn_append.mpr ⟨hi, hf.undollared⟩
  · apply List.isChain_cons.mpr
    use fun _ _ h => by simp [Piece.value?] at h, hf.apart

theorem legible_bound_append (v : Value) (hf : f.Legible) (hopens : f.OpensApart) :
  (bound v ++ f).Legible
  := by
  constructor
  · apply writtenIn_append.mpr ⟨writtenIn_bound v, hf.undollared⟩
  · apply List.isChain_cons.mpr
    use fun q hq _ => hopens q hq, hf.apart

theorem legible_text (hs : isUndollared s = true) :
  (text s).Legible
  := by
  rw [← append_empty (text s)]
  apply legible_text_append hs legible_empty

theorem legible_ident (i : Ident) :
  (ident i).Legible
  := legible_ident_append i legible_empty

theorem legible_bound (v : Value) :
  (bound v).Legible
  := legible_bound_append v legible_empty opensApart_empty

/-- Legible fragments are legible with a separator between them that opens apart. -/
theorem legible_intercalate (hs : isUndollared s = true) (hopens : startsApart s = true)
    {fs : List Fragment} (h : ∀ f ∈ fs, f.Legible) :
  (intercalate (text s) fs).Legible
  := by
  induction fs with
  | nil => apply legible_empty
  | cons f fs ih =>
      rw [List.forall_mem_cons] at h
      cases fs with
      | nil => apply h.1
      | cons g fs =>
          rw [intercalate, append_assoc]
          apply h.1.append (legible_text_append hs (ih h.2)) (opensApart_text_append hopens _)

theorem legible_joined (hs : isUndollared s = true) (hopens : startsApart s = true)
    {fs : List Fragment} (h : ∀ f ∈ fs, f.Legible) :
  (joined s fs).Legible
  := by
  apply legible_intercalate hs hopens
  intro f hf
  apply h f (List.mem_filter.mp hf).1

theorem legible_boundList (vs : List Value) :
  (boundList vs).Legible
  := by
  cases vs with
  | nil => apply legible_text (by decide)
  | cons v vs =>
      apply legible_intercalate (by decide) (by decide)
      rw [List.forall_mem_map]
      intro w _
      apply legible_bound

/-- A list in parentheses is legible behind any text. -/
theorem legible_boundList_closed (vs : List Value) :
  (boundList vs ++ text ")").Legible
  := by
  apply (legible_boundList vs).append (legible_text (by decide)) (opensApart_text (by decide))

end

/-! ### Numbers -/

/-- The symbols of pieces, with the digits of numbers from `n + 1` on for the values. -/
def numbered : Nat → List Piece → List (Symbol (List Char))
  | _, [] => []
  | n, .text s :: r => s.toList.map .char ++ numbered n r
  | n, .bound _ :: r => .slot (digits (n + 1)) :: numbered (n + 1) r

/-- Behind a value the text starts with no character of a name. -/
theorem head_of_opensApart {ps : List Piece} (h : OpensApart ⟨ps⟩) (n : Nat) :
  (∀ c ∈ (renderFrom n ps).head?, Ident.isNameChar c = false)
    ∧ ∀ b ∈ (numbered n ps).head?, ∀ ds, Symbol.Separate (.slot ds) b
  := by
  cases ps with
  | nil => simp [renderFrom, numbered]
  | cons p ps =>
      have hp := h p rfl
      cases p with
      | bound v => cases hp
      | text s =>
          cases hs : s.toList with
          | nil => simp [Piece.OpensApart, startsApart, hs] at hp
          | cons c r =>
              have hname : Ident.isNameChar c = false := by
                simpa [Piece.OpensApart, startsApart, hs] using hp
              simp [renderFrom, numbered, hs, hname, Symbol.Separate]

theorem legible_of_cons {p : Piece} {ps : List Piece} (h : Legible ⟨p :: ps⟩) :
  Legible ⟨ps⟩
  := by
  constructor
  · intro s hs
    apply h.undollared s (List.mem_cons_of_mem _ hs)
  · apply h.apart.tail

/-- A legible text is scanned into its characters and its numbers in order. -/
theorem scan_renderFrom {ps : List Piece} (h : Legible ⟨ps⟩) (n : Nat) :
  Symbol.scan (renderFrom n ps) = numbered n ps
  := by
  induction ps generalizing n with
  | nil => simp [renderFrom, numbered, Symbol.scan]
  | cons p ps ih =>
      have hrest := legible_of_cons h
      cases p with
      | text s =>
          rw [renderFrom, numbered, Symbol.scan_append (h.undollared s List.mem_cons_self),
            ih hrest]
      | bound v =>
          have hopens : OpensApart ⟨ps⟩ := by
            intro q hq
            apply (List.isChain_cons.mp h.apart).1 q hq rfl
          rw [renderFrom, numbered, Symbol.scan_placeholder, ih hrest]
          intro c hc
          apply Ident.isDigit_eq_false ((head_of_opensApart hopens (n + 1)).1 c hc)

/-- No number of a legible fragment is followed by a character of a name. -/
theorem separate_numbered {ps : List Piece} (h : Legible ⟨ps⟩) (n : Nat) :
  (numbered n ps).IsChain Symbol.Separate
  := by
  induction ps generalizing n with
  | nil => apply List.IsChain.nil
  | cons p ps ih =>
      have hrest := ih (legible_of_cons h)
      cases p with
      | text s =>
          have hchars : (s.toList.map (Symbol.char (α := List Char))).IsChain Symbol.Separate := by
            rw [List.isChain_map]
            induction s.toList with
            | nil => apply List.IsChain.nil
            | cons c r ihr =>
                apply List.isChain_cons.mpr
                use fun _ _ => trivial, ihr
          apply List.isChain_append.mpr
          use hchars, hrest n
          intro a ha b _
          obtain ⟨c, _, rfl⟩ := List.mem_map.mp (List.mem_of_getLast? ha)
          trivial
      | bound v =>
          have hopens : OpensApart ⟨ps⟩ := by
            intro q hq
            apply (List.isChain_cons.mp h.apart).1 q hq rfl
          apply List.isChain_cons.mpr
          use fun b hb => (head_of_opensApart hopens (n + 1)).2 b hb _, hrest (n + 1)

/-- The values are numbered one after the other. -/
theorem filterMap_slot?_numbered (ps : List Piece) (n : Nat) :
  (numbered n ps).filterMap Symbol.slot?
    = (List.range' (n + 1) (ps.filterMap Piece.value?).length).map digits
  := by
  induction ps generalizing n with
  | nil => rfl
  | cons p ps ih =>
      cases p with
      | text s =>
          have hchars :
              (s.toList.map (Symbol.char (α := List Char))).filterMap Symbol.slot? = [] := by
            simp [List.filterMap_map, Symbol.slot?]
          rw [numbered, List.filterMap_append, hchars, ih]
          rfl
      | bound v =>
          simp [numbered, Symbol.slot?, Piece.value?, List.range'_succ, ih]

/-! ### Symbols of statements -/

/-- The symbols of a fragment, its values in their places. -/
def symbols (f : Fragment) : List (Symbol Value) :=
  f.pieces.flatMap Piece.symbols

@[simp]
theorem symbols_empty :
  empty.symbols = []
  := rfl

@[simp]
theorem symbols_append (f g : Fragment) :
  (f ++ g).symbols = f.symbols ++ g.symbols
  := by
  simp [symbols]

@[simp]
theorem symbols_text (s : String) :
  (text s).symbols = s.toList.map .char
  := by
  rw [text]
  split
  · next h =>
      rw [h]
      rfl
  · simp [symbols, Piece.symbols]

@[simp]
theorem symbols_ident (i : Ident) :
  (ident i).symbols = i.text.toList.map .char
  := by
  simp [symbols, ident, Piece.symbols]

@[simp]
theorem symbols_bound (v : Value) :
  (bound v).symbols = [.slot v]
  := rfl

end Fragment

namespace Statement

/-- The value that a placeholder stands for. -/
def param? (s : Statement) (number : List Char) : Option Value :=
  match digitsValue number with
  | 0 => none
  | k + 1 => s.params[k]?

/-- A symbol of the text with the value of a placeholder in its place. -/
def resolved? (s : Statement) : Symbol (List Char) → Option (Symbol Value)
  | .char c => some (.char c)
  | .slot number => (s.param? number).map .slot

/-- The symbols of a statement, if each placeholder stands for a value. -/
def symbols? (s : Statement) : Option (List (Symbol Value)) :=
  (Symbol.scan s.sql.toList).mapM s.resolved?

theorem mapM_resolved?_numbered (s : Statement) {ps : List Piece} {before : List Value}
    (h : s.params = before ++ ps.filterMap Piece.value?) :
  (Fragment.numbered before.length ps).mapM s.resolved? = some (ps.flatMap Piece.symbols)
  := by
  induction ps generalizing before with
  | nil => simp [Fragment.numbered]
  | cons p ps ih =>
      cases p with
      | text t =>
          have hchars : (t.toList.map Symbol.char).mapM s.resolved?
              = some (t.toList.map Symbol.char) := by
            rw [List.mapM_map]
            induction t.toList with
            | nil => rfl
            | cons c r ihr => simp [List.mapM_cons, ihr, resolved?]
          rw [Fragment.numbered, List.mapM_append, hchars, ih h]
          rfl
      | bound v =>
          have hparam : s.param? (digits (before.length + 1)) = some v := by
            simp [param?, h, Piece.value?]
          have hparams : s.params = (before ++ [v]) ++ ps.filterMap Piece.value? := by
            simp [h, Piece.value?]
          have hrest := ih hparams
          rw [List.length_append, List.length_singleton] at hrest
          rw [Fragment.numbered, List.mapM_cons, resolved?, hparam, hrest]
          rfl

/-- The text and the values of a legible fragment tell its symbols. -/
theorem symbols?_build {f : Fragment} (h : f.Legible) :
  f.build.symbols? = some f.symbols
  := by
  rw [symbols?, Fragment.build, Fragment.sql, String.toList_ofList, Fragment.scan_renderFrom h 0]
  have hparams : f.build.params = [] ++ f.pieces.filterMap Piece.value? := rfl
  apply mapM_resolved?_numbered f.build hparams

end Statement

end BoundSql
