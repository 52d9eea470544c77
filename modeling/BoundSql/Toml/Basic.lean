import BoundSql.Binary.Double

/-!
# Tables of settings

A document is a table of named values. Its lines put values under dotted
keys and open tables by headers; a table remembers how it came about, for
that decides how it may grow. A key is set once, a table has one header, and
a table that is written out as a value does not grow at all.
-/

namespace BoundSql

/-- How a table came about: by its own header, as a step on the path of another header, as a step of
a dotted key, or written out as a value. -/
inductive TableOrigin where
  | header
  | path
  | dotted
  | inline
  deriving DecidableEq, Repr

/-- A value of a document. An array of tables that were opened by headers may get more of them. -/
inductive Toml where
  | text (s : String)
  | bool (b : Bool)
  | integer (n : Int)
  | float (x : Double)
  | time (written : String)
  | array (byHeaders : Bool) (items : List Toml)
  | table (origin : TableOrigin) (fields : List (String × Toml))
  deriving Repr, Inhabited

namespace Toml

/-- The fields of a table. -/
abbrev Fields := List (String × Toml)

/-- A dotted key and its value. -/
structure Assignment where
  path : List String
  value : Toml
  deriving Repr

/-- A header with the assignments below it. A header in double brackets adds a table to an array. -/
structure Section where
  path : List String
  isItem : Bool
  assignments : List Assignment
  deriving Repr

/-- The value of a key. -/
def get? (fields : Fields) (key : String) : Option Toml :=
  fields.lookup key

/-- Fields with the value of a key changed, or with the key added; the change may be refused. -/
def change? (key : String) (f : Option Toml → Option Toml) : Fields → Option Fields
  | [] => (f none).map fun v => [(key, v)]
  | (k, v) :: r =>
    if k = key then (f (some v)).map fun v => (k, v) :: r
    else (change? key f r).map ((k, v) :: ·)

/-- Items with the last one changed, if there is one and the change is not refused. -/
def changeLast? (f : Toml → Option Toml) : List Toml → Option (List Toml)
  | [] => none
  | [v] => (f v).map ([·])
  | v :: r => (changeLast? f r).map (v :: ·)

/-- A new key with its value. A table that is not in the making by dotted keys admits none that
comes along a dotted key. -/
def addKey? (admits : Bool) (key : String) (v : Toml) (fields : Fields) : Option Fields :=
  change? key (fun old => if admits && old.isNone then some v else none) fields

/-- Fields with a value put under a dotted key. -/
def assign? : (path : List String) → (v : Toml) → (admits : Bool) → Fields → Option Fields
  | [], _, _, _ => none
  | [key], v, admits, fields => addKey? admits key v fields
  | key :: path, v, _, fields =>
    change? key (fun old =>
      match old with
      | none => (assign? path v true []).map (.table .dotted)
      | some (.table .dotted fs) => (assign? path v true fs).map (.table .dotted)
      | some (.table .path fs) => (assign? path v false fs).map (.table .path)
      | _ => none) fields

/-- Fields with assignments added in order. -/
def assignAll? (assignments : List Assignment) (fields : Fields) : Option Fields :=
  assignments.foldlM (fun fields e => assign? e.path e.value true fields) fields

/-- A table opened by a header, as it was before: it may have been a step on the path of others. -/
def openTable? (assignments : List Assignment) : Option Toml → Option Toml
  | none => (assignAll? assignments []).map (.table .header)
  | some (.table .path fields) => (assignAll? assignments fields).map (.table .header)
  | _ => none

/-- An array with one more table opened by a header. -/
def openItem? (assignments : List Assignment) : Option Toml → Option Toml
  | none => (assignAll? assignments []).map fun fields => .array true [.table .header fields]
  | some (.array true items) =>
    (assignAll? assignments []).map fun fields => .array true (items ++ [.table .header fields])
  | _ => none

/-- Fields with a change at the end of a header's path. The path leads through tables and through
the last tables of arrays. -/
def changeAt? (f : Option Toml → Option Toml) : (path : List String) → Fields → Option Fields
  | [], _ => none
  | [key], fields => change? key f fields
  | key :: path, fields =>
    let into : Toml → Option Toml := fun v =>
      match v with
      | .table .inline _ => none
      | .table origin fs => (changeAt? f path fs).map (.table origin)
      | _ => none
    change? key (fun old =>
      match old with
      | none => (changeAt? f path []).map (.table .path)
      | some (.array true items) => (changeLast? into items).map (.array true)
      | some v => into v) fields

/-- Fields with a section added. -/
def addSection? (s : Section) (fields : Fields) : Option Fields :=
  changeAt? (if s.isItem then openItem? s.assignments else openTable? s.assignments) s.path fields

/-- The table of a document: the assignments in front of all headers, and the sections. -/
def assemble? (assignments : List Assignment) (sections : List Section) : Option Fields := do
  let fields ← assignAll? assignments []
  sections.foldlM (fun fields s => addSection? s fields) fields

end Toml

end BoundSql
