import BoundSql.Text.LetterCase
import BoundSql.Text.Quoted

/-!
# Identifiers

A name reaches the text of a statement only as an identifier: segments of
ASCII letters, digits and underscores with dots between them, none of them
empty. A column name is a single segment. Everything that is not in this
grammar is refused with the first fault that is found.
-/

namespace BoundSql

open BoundSql.Text

/-- Why a text is no name. -/
inductive NameFault where
  | empty
  | badCharacter (c : Char) (name : String)
  | qualifiedColumn (name : String)
  | emptySegment (name : String)
  deriving DecidableEq, Repr

/-- The wording of a fault. -/
def NameFault.message : NameFault → String
  | .empty => "identifier cannot be empty"
  | .badCharacter c name => "invalid character " ++ quotedChar c ++ " in " ++ quoted name
  | .qualifiedColumn name => "column name " ++ quoted name ++ " cannot be qualified"
  | .emptySegment name => "empty segment in " ++ quoted name

namespace Ident

/-- Whether a character may stand in a segment. -/
def isSegmentChar (c : Char) : Bool :=
  c.isAlphanum || c == '_'

/-- Whether a character may stand in an identifier. -/
def isNameChar (c : Char) : Bool :=
  isSegmentChar c || c == '.'

/-- The parts of a text between its dots. -/
def segments : List Char → List (List Char)
  | [] => [[]]
  | c :: r =>
    if c = '.' then [] :: segments r
    else match segments r with
      | [] => [[c]]
      | s :: ss => (c :: s) :: ss

/-- Whether a text is made of non-empty segments with dots between them. -/
def isQualified (cs : List Char) : Bool :=
  cs.all isNameChar && (segments cs).all (!·.isEmpty)

end Ident

/-- A text in the grammar of qualified names. -/
structure Ident where
  text : String
  valid : Ident.isQualified text.toList = true
  deriving DecidableEq, Repr

namespace Ident

/-- The text of an identifier has a character. -/
theorem toList_text_ne_nil (i : Ident) :
  i.text.toList ≠ []
  := by
  intro h
  have hvalid := i.valid
  rw [h] at hvalid
  contradiction

theorem segments_of_not_mem {cs : List Char} (h : '.' ∉ cs) :
  segments cs = [cs]
  := by
  induction cs with
  | nil => rfl
  | cons c r ih =>
      rw [List.mem_cons, not_or] at h
      obtain ⟨hc, hr⟩ := h
      simp [segments, ih hr, Ne.symm hc]

/-- A non-empty text of name characters without a dot is a single segment. -/
theorem isQualified_of_nameChars {cs : List Char} (hne : cs ≠ [])
    (h : ∀ c ∈ cs, isNameChar c = true) (hdot : '.' ∉ cs) :
  isQualified cs = true
  := by
  simp only [isQualified, segments_of_not_mem hdot, Bool.and_eq_true, List.all_eq_true]
  refine ⟨h, ?_⟩
  simpa using hne

/-- The identifier of a name, which may be qualified by a schema. -/
def qualified? (name : String) : Except NameFault Ident :=
  if name.toList = [] then .error .empty
  else match name.toList.find? (!isNameChar ·) with
    | some c => .error (.badCharacter c name)
    | none =>
      if h : isQualified name.toList = true then .ok ⟨name, h⟩ else .error (.emptySegment name)

/-- The identifier of a column. -/
def column? (name : String) : Except NameFault Ident :=
  if hne : name.toList = [] then .error .empty
  else match hbad : name.toList.find? (!isNameChar ·) with
    | some c => .error (.badCharacter c name)
    | none =>
      if hdot : '.' ∈ name.toList then .error (.qualifiedColumn name)
      else .ok ⟨name, isQualified_of_nameChars hne (by simpa using hbad) hdot⟩

/-- The part behind the last dot, and the part in front of it if there is one. -/
def splitSchema (i : Ident) : Option String × String :=
  let reversed := i.text.toList.reverse
  let name := String.ofList (reversed.takeWhile (· != '.')).reverse
  match reversed.dropWhile (· != '.') with
  | [] => (none, name)
  | _ :: schema => (some (String.ofList schema.reverse), name)

/-- Whether a name is the identifier up to the case of letters. -/
def isNamed (i : Ident) (name : String) : Bool :=
  sameName i.text name

end Ident

end BoundSql
