import BoundSql.Entity.Audit
import BoundSql.Error

/-!
# Entities

An entity maps the properties of a record to the columns of a table. It is
declared by a shape, and a shape is accepted when its names are identifiers,
no column is mapped twice, exactly one field is the key and at most one is the
concurrency token.
-/

namespace BoundSql

open BoundSql.Text

/-- A field as it is declared. -/
structure FieldShape where
  property : String
  column : String
  isKey : Bool := false
  isToken : Bool := false
  isGenerated : Bool := false
  deriving DecidableEq, Repr

/-- An entity as it is declared. -/
structure EntityShape where
  name : String
  table : String
  audited : Bool
  fields : List FieldShape
  deriving DecidableEq, Repr

/-- A property and the column that it is mapped to. -/
structure Field where
  property : String
  column : Ident
  isKey : Bool
  isToken : Bool
  isGenerated : Bool
  deriving DecidableEq, Repr

/-- Fields that fit together: no column twice, one key and one token at most. -/
structure Compatible (fields : List Field) : Prop where
  distinct : fields.Pairwise fun f g => f.column.isNamed g.column.text = false
  oneKey : (fields.filter (·.isKey)).length ≤ 1
  oneToken : (fields.filter (·.isToken)).length ≤ 1

/-- An accepted entity. -/
structure Entity where
  name : String
  table : Ident
  fields : List Field
  key : Field
  token : Option Field
  audited : Bool
  distinct : fields.Pairwise fun f g => f.column.isNamed g.column.text = false
  keys_eq : fields.filter (·.isKey) = [key]
  tokens_eq : fields.filter (·.isToken) = token.toList
  deriving Repr

namespace Field

/-- Whether the field fits behind others, or what is wrong with it. -/
def fault? (before : List Field) (f : Field) : Option EntityFault :=
  if before.any (·.column.isNamed f.column.text) then some (.mappedTwice f.column.text)
  else if f.isKey && before.any (·.isKey) then some .compositeKey
  else if f.isToken && before.any (·.isToken) then some .secondToken
  else none

theorem length_filter_le_one {before : List Field} {f : Field} {p : Field → Bool}
    (h : (before.filter p).length ≤ 1) (hf : (p f && before.any p) = false) :
  ((before ++ [f]).filter p).length ≤ 1
  := by
  rw [Bool.and_eq_false_iff] at hf
  rcases hf with hf | hf
  · simpa [hf] using h
  · have hnone : before.filter p = [] := by
      rw [List.filter_eq_nil_iff]
      apply List.any_eq_false.mp hf
    rw [List.filter_append, hnone, List.nil_append]
    apply List.length_filter_le p [f]

/-- A field without a fault fits behind fields that fit together. -/
theorem compatible_append {before : List Field} {f : Field} (h : Compatible before)
    (hf : f.fault? before = none) :
  Compatible (before ++ [f])
  := by
  simp only [fault?] at hf
  split at hf
  · contradiction
  · next hcolumn =>
      split at hf
      · contradiction
      · next hkey =>
          split at hf
          · contradiction
          · next htoken =>
              constructor
              · rw [List.pairwise_append]
                refine ⟨h.distinct, List.pairwise_singleton _ f, ?_⟩
                intro g hg x hx
                obtain rfl := List.mem_singleton.mp hx
                rw [Bool.eq_false_iff]
                intro hsame
                apply hcolumn
                rw [List.any_eq_true]
                refine ⟨g, hg, hsame⟩
              · apply length_filter_le_one h.oneKey (Bool.eq_false_iff.mpr hkey)
              · apply length_filter_le_one h.oneToken (Bool.eq_false_iff.mpr htoken)

end Field

/-- The mapped field of a declared one. -/
def FieldShape.field (f : FieldShape) : Except Error Field := do
  let column ← Ident.column f.column
  pure ⟨f.property, column, f.isKey, f.isToken, f.isGenerated⟩

namespace Entity

theorem eq_toList_head? {α : Type} {l : List α} (h : l.length ≤ 1) :
  l = l.head?.toList
  := by
  match l, h with
  | [], _ => rfl
  | [_], _ => rfl

/-- The fields of declared ones behind those that are accepted already; the first that cannot be
accepted is the error. -/
def accept (name : String) (before : { fields : List Field // Compatible fields }) :
    List FieldShape → Except Error { fields : List Field // Compatible fields }
  | [] => .ok before
  | shape :: r =>
    match shape.field with
    | .error e => .error e
    | .ok f =>
      match h : f.fault? before.1 with
      | some fault => .error (.badEntity name fault)
      | none => accept name ⟨before.1 ++ [f], f.compatible_append before.2 h⟩ r

/-- The entity of a shape, or the error of the first check that fails, in the order of declaration.
A missing key is noticed last. -/
def ofShape (s : EntityShape) : Except Error Entity := do
  let table ← Ident.qualified s.table
  let ⟨fields, h⟩ ← accept s.name ⟨[], ⟨List.Pairwise.nil, by decide, by decide⟩⟩ s.fields
  match hkeys : fields.filter (·.isKey) with
  | [] => .error (.missingKey s.name)
  | key :: others =>
    pure
      { name := s.name
        table, fields, key
        token := (fields.filter (·.isToken)).head?
        audited := s.audited
        distinct := h.distinct
        keys_eq := by
          rw [eq_toList_head? h.oneKey, hkeys]
          rfl
        tokens_eq := eq_toList_head? h.oneToken }

/-- The position of the field that a name addresses: the first whose property has the name, else the
first whose column has it. -/
def position? (e : Entity) (name : String) : Option Nat :=
  (e.fields.findIdx? fun f => sameName f.property name).or
    (e.fields.findIdx? fun f => f.column.isNamed name)

/-- The field that a name addresses. -/
def field? (e : Entity) (name : String) : Option Field :=
  (e.position? name).bind fun i => e.fields[i]?

/-- The column that marks rows as deleted, if the entity has one. -/
def softDeleteColumn? (e : Entity) : Option Ident :=
  if e.audited then some Audit.isDeleted else none

end Entity

end BoundSql
