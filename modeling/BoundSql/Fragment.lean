import BoundSql.Ident
import BoundSql.Text.Digits
import BoundSql.Value.Basic

/-!
# Fragments

A fragment is a sequence of texts and bound values. Values carry no number:
the placeholders are numbered from one, in order, when the fragment is
rendered, so fragments are put together by concatenation alone. Text enters
as fixed words and identifiers, never as caller data.
-/

namespace BoundSql

open BoundSql.Text

/-- A piece of a statement: text that is no empty one, or a bound value. -/
inductive Piece where
  | text (s : String)
  | bound (v : Value)
  deriving Repr

/-- The bound value of a piece. -/
def Piece.value? : Piece → Option Value
  | .text _ => none
  | .bound v => some v

/-- A sequence of pieces. -/
structure Fragment where
  pieces : List Piece
  deriving Repr

/-- The text of a statement with numbered placeholders, and the values bound to them in order. -/
structure Statement where
  sql : String
  params : List Value
  deriving Repr

namespace Fragment

/-- The fragment without pieces. -/
def empty : Fragment := ⟨[]⟩

instance : Append Fragment := ⟨fun a b => ⟨a.pieces ++ b.pieces⟩⟩

instance : EmptyCollection Fragment := ⟨empty⟩

/-- A text; the empty text adds no piece. -/
def text (s : String) : Fragment :=
  if s = "" then empty else ⟨[.text s]⟩

/-- An identifier, letter for letter. -/
def ident (i : Ident) : Fragment :=
  ⟨[.text i.text]⟩

/-- A bound value. -/
def bound (v : Value) : Fragment :=
  ⟨[.bound v]⟩

/-- Whether there are no pieces. -/
def isEmpty (f : Fragment) : Bool :=
  f.pieces.isEmpty

/-- Fragments one after the other with a separator between them. -/
def intercalate (separator : Fragment) : List Fragment → Fragment
  | [] => empty
  | [f] => f
  | f :: g :: r => f ++ separator ++ intercalate separator (g :: r)

/-- The fragments that are not empty, with a text between them. -/
def joined (separator : String) (fragments : List Fragment) : Fragment :=
  intercalate (text separator) (fragments.filter (!·.isEmpty))

/-- Identifiers with commas between them. -/
def idents (is : List Ident) : Fragment :=
  intercalate (text ", ") (is.map ident)

/-- Bound values with commas between them; without values the word for null, which is never equal
to anything. -/
def boundList (vs : List Value) : Fragment :=
  match vs with
  | [] => text "NULL"
  | vs => intercalate (text ", ") (vs.map bound)

/-- The window of a result: how many rows are left out and how many are taken. -/
def window (offset fetch : Int64) : Fragment :=
  text " OFFSET " ++ bound (.int offset) ++ text " ROWS FETCH NEXT " ++ bound (.int fetch)
    ++ text " ROWS ONLY"

/-- The placeholder of a number. -/
def placeholder (n : Nat) : List Char :=
  '$' :: digits n

/-- The characters of a sequence of pieces, its placeholders numbered onwards from `n + 1`. -/
def renderFrom : Nat → List Piece → List Char
  | _, [] => []
  | n, .text s :: r => s.toList ++ renderFrom n r
  | n, .bound _ :: r => placeholder (n + 1) ++ renderFrom (n + 1) r

/-- The text with its placeholders. -/
def sql (f : Fragment) : String :=
  String.ofList (renderFrom 0 f.pieces)

/-- The bound values in order. -/
def params (f : Fragment) : List Value :=
  f.pieces.filterMap Piece.value?

/-- The finished statement. -/
def build (f : Fragment) : Statement :=
  ⟨f.sql, f.params⟩

@[simp]
theorem pieces_append (a b : Fragment) :
  (a ++ b).pieces = a.pieces ++ b.pieces
  := rfl

@[simp]
theorem params_append (a b : Fragment) :
  (a ++ b).params = a.params ++ b.params
  := by
  simp [params]

theorem append_assoc (a b c : Fragment) :
  a ++ b ++ c = a ++ (b ++ c)
  := by
  change Fragment.mk _ = Fragment.mk _
  simp

@[simp]
theorem empty_append (a : Fragment) :
  empty ++ a = a
  := rfl

@[simp]
theorem append_empty (a : Fragment) :
  a ++ empty = a
  := by
  change Fragment.mk _ = _
  simp [empty]

end Fragment

end BoundSql
