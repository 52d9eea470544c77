import BoundSql.Fragment

/-!
# Builders

A builder keeps the parts of a statement and the values bound in it side by
side. A part is raw text or a placeholder that has no number until the
statement is written. Texts and identifiers are pushed into the last part when
that is text; another builder is pushed part by part, and its values behind
those that were there.
-/

namespace BoundSql

/-- A part of a statement: raw text, or a placeholder that has no number yet. -/
inductive Part where
  | raw (s : String)
  | placeholder
  deriving DecidableEq, Repr

/-- The parts of a statement that is being built, and the values bound in it. -/
structure Builder where
  parts : List Part := []
  params : List Value := []
  deriving Repr

namespace Builder

/-- The builder on which nothing was pushed. -/
def empty : Builder := {}

/-- Whether nothing was pushed. -/
def isEmpty (b : Builder) : Bool :=
  b.parts.isEmpty

/-- The number of the bound values. -/
def paramCount (b : Builder) : Nat :=
  b.params.length

/-- Parts with a text written into the last one, or behind it when that is a placeholder. -/
def written (s : String) (parts : List Part) : List Part :=
  match parts.getLast? with
  | some (.raw last) => parts.dropLast ++ [.raw (last ++ s)]
  | _ => parts ++ [.raw s]

/-- Pushes a text; the empty text is no part. -/
def pushText (b : Builder) (s : String) : Builder :=
  if s = "" then b else { b with parts := written s b.parts }

/-- Pushes an identifier, letter for letter. -/
def pushIdent (b : Builder) (i : Ident) : Builder :=
  { b with parts := written i.text b.parts }

/-- Pushes identifiers, with a comma in front of each but the first. -/
def pushIdents (b : Builder) (is : List Ident) : Builder :=
  is.zipIdx.foldl (fun b (i, n) => (if 0 < n then b.pushText ", " else b).pushIdent i) b

/-- Pushes a placeholder and binds its value. -/
def pushBound (b : Builder) (v : Value) : Builder :=
  ⟨b.parts ++ [.placeholder], b.params ++ [v]⟩

/-- Pushes placeholders with commas between them and binds their values; without values, pushes the
word for null. -/
def pushBoundList (b : Builder) : List Value → Builder
  | [] => b.pushText "NULL"
  | v :: vs => vs.foldl (fun b w => (b.pushText ", ").pushBound w) (b.pushBound v)

/-- Pushes a part and binds nothing. -/
def pushPart (b : Builder) : Part → Builder
  | .raw s => b.pushText s
  | .placeholder => { b with parts := b.parts ++ [.placeholder] }

/-- Pushes the parts of another builder and binds its values. -/
def pushBuilder (b added : Builder) : Builder :=
  let b := added.parts.foldl pushPart b
  { b with params := b.params ++ added.params }

/-- Pushes the builders that are not empty, with a text in front of each but the first. -/
def pushJoined (b : Builder) (added : List Builder) (separator : String) : Builder :=
  ((added.filter (!·.isEmpty)).foldl (fun (b, first) f =>
    ((if first then b else b.pushText separator).pushBuilder f, false)) (b, true)).1

/-- Pushes the window of a result. -/
def pushWindow (b : Builder) (offset fetch : Int64) : Builder :=
  ((((b.pushText " OFFSET ").pushBound (.int offset)).pushText " ROWS FETCH NEXT ").pushBound
    (.int fetch)).pushText " ROWS ONLY"

/-- The characters of parts, their placeholders numbered onwards from `n + 1`. -/
def renderFrom : Nat → List Part → List Char
  | _, [] => []
  | n, .raw s :: r => s.toList ++ renderFrom n r
  | n, .placeholder :: r => Fragment.placeholder (n + 1) ++ renderFrom (n + 1) r

/-- The text with its placeholders. -/
def sql (b : Builder) : String :=
  String.ofList (renderFrom 0 b.parts)

/-- The finished statement. -/
def build (b : Builder) : Statement :=
  ⟨b.sql, b.params⟩

end Builder

end BoundSql
