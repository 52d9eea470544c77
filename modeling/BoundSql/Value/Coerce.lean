import BoundSql.Binary.Literal
import BoundSql.Decimal.Double
import BoundSql.Json.Reader
import BoundSql.Value.Basic

/-!
# Coercion

A value moves to another family when it can be written there: a text is read
in the form of the family, numbers move where they fit, dates and times move
between days, local times and instants. Everything else is refused, and the
refusal shows what was found.
-/

namespace BoundSql

open BoundSql.Text

/-- What could not be moved to a family. -/
inductive Found where
  | text (s : String)
  | number (n : JsonNumber)
  | float (x : Double)
  | decimal (d : Decimal)
  | structured
  | value (v : Value)
  deriving Repr

/-- A refused coercion. -/
structure Refusal where
  target : ColumnType
  found : Found
  deriving Repr

/-- What was found, as a message shows it. -/
def Found.message : Found → String
  | .text s => quoted s
  | .number n => n.toText
  | .float x => Binary.Spelling.plain.write x
  | .decimal d => d.toText
  | .structured => "a JSON structure"
  | .value v => v.shown

/-- The wording of a refusal. -/
def Refusal.message (r : Refusal) : String :=
  "cannot convert " ++ r.found.message ++ " to " ++ r.target.label

/-- Whether a JSON value is a string of blanks. -/
def Json.isBlankString : Json → Bool
  | .string s => isBlank s
  | _ => false

/-- The 64-bit integer that a decimal is, if it is one. -/
def Decimal.toInt64? (d : Decimal) : Option Int64 :=
  if d.isWhole then int64Of? d.wholePart else none

/-- The bound of the magnitudes of doubles that are taken as integers. -/
def Double.wordBound : Nat := 9000000000000000

/-- The 64-bit integer that a double is, if it is one and its magnitude stays below the bound. -/
def Double.toInt64? (x : Double) : Option Int64 :=
  if x.isWhole && x.isBelow wordBound then some x.castInt64 else none

namespace Value

/-- The words for true and false, in lower case. -/
def boolWords : List (String × Bool) :=
  [("true", true), ("t", true), ("1", true), ("yes", true), ("y", true), ("on", true),
   ("false", false), ("f", false), ("0", false), ("no", false), ("n", false), ("off", false)]

/-- The truth value of a word. -/
def boolOf? (word : String) : Option Bool :=
  (boolWords.find? fun p => p.1 == lower word).map Prod.snd

/-- The JSON value of a text: the one it is written as, else the text itself as a string. -/
def jsonOfText (s : String) : Json :=
  (Json.ofText? (trim s)).getD (.string s)

/-- The value that a text denotes in a family; blanks around it do not count. -/
def ofText? (ty : ColumnType) (s : String) : Option Value :=
  let t := trim s
  match ty with
  | .text => some (.text s)
  | .integer => ((Decimal.ofText? t).bind Decimal.toInt64?).map .int
  | .decimal => (Decimal.ofText? t).map .decimal
  | .float => (Double.ofText? t).map .float
  | .boolean => (boolOf? t).map .bool
  | .date =>
    (Date.ofChars? t.toList).or ((Instant.ofChars? t.toList).map Timestamp.date) |>.map .date
  | .timestamp => (Instant.ofChars? t.toList).map .timestamp
  | .timestampTz => (Instant.ofChars? t.toList).map .timestampTz
  | .uuid => (Uuid.ofChars? t.toList).map .uuid
  | .json => some (.json (jsonOfText s))

/-- The value that a text denotes in a family. -/
def ofText (ty : ColumnType) (s : String) : Except Refusal Value :=
  match ofText? ty s with
  | some v => .ok v
  | none => .error ⟨ty, .text s⟩

/-- A value that is neither text nor JSON, moved to another family. -/
def move (ty : ColumnType) (v : Value) : Except Refusal Value :=
  let refuse (found : Found) : Except Refusal Value := .error ⟨ty, found⟩
  match v, ty with
  | .int n, .decimal => .ok (.decimal (.ofInt64 n))
  | .int n, .float => .ok (.float (.ofInt n.toInt))
  | .int n, .boolean => .ok (.bool (n != 0))
  | .int n, .text => .ok (.text (integerText n.toInt))
  | .int n, .json => .ok (.json (.number (.ofInt64 n)))
  | .float x, .integer =>
    match x.toInt64? with
    | some n => .ok (.int n)
    | none => refuse (.value v)
  | .float x, .decimal =>
    match Decimal.ofDouble? x with
    | some d => .ok (.decimal d)
    | none => refuse (.float x)
  | .float x, .text => .ok (.text (Binary.Spelling.plain.write x))
  | .float x, .json =>
    match JsonNumber.ofDouble? x with
    | some n => .ok (.json (.number n))
    | none => refuse (.float x)
  | .decimal d, .integer =>
    if d.isWhole then
      match d.toInt64? with
      | some n => .ok (.int n)
      | none => refuse (.decimal d)
    else refuse (.value v)
  | .decimal d, .float => .ok (.float d.toDouble)
  | .decimal d, .boolean => .ok (.bool !d.isZero)
  | .decimal d, .text => .ok (.text d.toText)
  | .bool b, .integer => .ok (.int (if b then 1 else 0))
  | .bool b, .text => .ok (.text (boolText b))
  | .bool b, .json => .ok (.json (.bool b))
  | .date d, .timestamp => .ok (.timestamp d.midnight)
  | .date d, .timestampTz => .ok (.timestampTz d.midnight)
  | .date d, .text => .ok (.text d.toText)
  | .timestamp t, .date => .ok (.date t.date)
  | .timestamp t, .timestampTz => .ok (.timestampTz t)
  | .timestamp t, .text => .ok (.text t.toSpacedText)
  | .timestampTz t, .date => .ok (.date t.date)
  | .timestampTz t, .timestamp => .ok (.timestamp t)
  | .timestampTz t, .text => .ok (.text t.toOffsetText)
  | .uuid u, .text => .ok (.text u.toText)
  | _, _ => refuse (.value v)

/-- A value that is neither text nor JSON in a family: itself when it belongs there. -/
def moved (ty : ColumnType) (v : Value) : Except Refusal Value :=
  if v.type?.all (· = ty) then .ok v else v.move ty

/-- The value of a JSON value in a declared family. -/
def coerce (ty : ColumnType) (j : Json) : Except Refusal Value :=
  match j with
  | .null => .ok .null
  | .string s => ofText ty s
  | .bool b => moved ty (.bool b)
  | .number n =>
    if ty = .decimal then
      match Decimal.ofText? n.toText with
      | some d => .ok (.decimal d)
      | none => .error ⟨ty, .number n⟩
    else
      match n.int64? with
      | some i => moved ty (.int i)
      | none => moved ty (.float n.toDouble)
  | j =>
    match ty with
    | .json => .ok (.json j)
    | .text => .ok (.text j.toText)
    | _ => .error ⟨ty, .structured⟩

/-- The value in a family: itself when it is null or belongs there. -/
def convert (ty : ColumnType) (v : Value) : Except Refusal Value :=
  if v.type?.all (· = ty) then .ok v
  else match v with
    | .text s => ofText ty s
    | .json j => coerce ty j
    | v => v.move ty

end Value

end BoundSql
