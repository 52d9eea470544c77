import BoundSql.Json.Record
import BoundSql.Text.LetterCase

/-!
# Parameter bags

A bag holds named JSON values in increasing order of their names. A name is
looked up without regard to letter case and to one marker in front of it, and
the first match counts. Setting a value takes the first match out of the bag.
-/

namespace BoundSql

open BoundSql.Text

/-- Named values in increasing order of their names. -/
structure ParameterBag where
  entries : List (String × Json)
  sorted : Fields.Sorted entries

namespace ParameterBag

/-- A name without the marker in front of it. -/
def bareName (name : String) : String :=
  match name.toList with
  | '@' :: r => String.ofList r
  | _ => name

/-- Whether two names address the same parameter. -/
def sameParameter (a b : String) : Bool :=
  sameName (bareName a) (bareName b)

/-- The bag without values. -/
def empty : ParameterBag := ⟨[], List.Pairwise.nil⟩

/-- The bag of an object's fields, kept as they are. -/
def ofFields (fields : List (String × Json)) : ParameterBag :=
  ⟨Fields.ofList fields, Fields.sorted_ofList fields⟩

/-- The first name in the bag that addresses a parameter. -/
def key? (b : ParameterBag) (name : String) : Option String :=
  (b.entries.find? fun p => sameParameter p.1 name).map Prod.fst

/-- The bag with a value set. -/
def insert (b : ParameterBag) (name : String) (value : Json) : ParameterBag :=
  let kept := match b.key? name with
    | some key => Fields.erase b.entries key
    | none => b.entries
  have h : Fields.Sorted kept := by
    simp only [kept]
    split
    · apply Fields.sorted_erase _ b.sorted
    · apply b.sorted
  ⟨Fields.insert name value kept, Fields.sorted_insert name value h⟩

/-- The bag of pairs set in order. -/
def ofPairs (pairs : List (String × Json)) : ParameterBag :=
  pairs.foldl (fun b p => b.insert p.1 p.2) empty

/-- The value of a name. -/
def get? (b : ParameterBag) (name : String) : Option Json :=
  (b.entries.find? fun p => sameParameter p.1 name).map Prod.snd

/-- Whether the bag has a value of a name. -/
def contains (b : ParameterBag) (name : String) : Bool :=
  (b.get? name).isSome

/-- The bag of a JSON object. -/
def ofJson? (j : Json) : Option ParameterBag :=
  j.asFields?.map ofFields

/-- The bag as a JSON object. -/
def toJson (b : ParameterBag) : Json :=
  .object b.entries

end ParameterBag

end BoundSql
