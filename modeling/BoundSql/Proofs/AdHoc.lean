import BoundSql.AdHoc
import BoundSql.Proofs.Clause.Wording

/-!
# Statements of field bags

The statements on tables without a declared shape are plainly worded and
legible. Their texts depend on the columns of the bags and on which keys are
null, and on no other value.
-/

namespace BoundSql

open Fragment

/-! ### Other values in a bag -/

namespace FieldBag

/-- The columns of a bag in order. -/
def names (b : FieldBag) : List String :=
  b.fields.map Prod.fst

/-- The columns of a bag in order, and whether their values are null. -/
def nulls (b : FieldBag) : List (String × Bool) :=
  b.fields.map fun (name, v) => (name, v.isNull)

/-- The bag with other values. -/
def mapValues (f : Value → Value) (b : FieldBag) : FieldBag :=
  ⟨b.fields.map (Prod.map id f), List.pairwise_map.mpr b.distinct⟩

theorem isEmpty_iff_fields {b : FieldBag} :
  b.isEmpty = true ↔ b.fields = []
  := List.isEmpty_iff

theorem isEmpty_mapValues (f : Value → Value) (b : FieldBag) :
  (b.mapValues f).isEmpty = b.isEmpty
  := by
  simp [isEmpty, mapValues]

theorem checkedFields_mapValues (f : Value → Value) (fields : List (String × Value)) :
  checkedFields (fields.map (Prod.map id f))
    = (checkedFields fields).map (List.map (Prod.map id f))
  := by
  induction fields with
  | nil => rfl
  | cons field fields ih =>
      obtain ⟨name, v⟩ := field
      rw [List.map_cons, Prod.map_apply, id, checkedFields, checkedFields, ih]
      cases Ident.column name with
      | error e => rfl
      | ok column =>
          cases checkedFields fields with
          | error e => rfl
          | ok rest => rfl

/-- Names are checked whatever the values are. -/
theorem checked_mapValues (f : Value → Value) (b : FieldBag) :
  (b.mapValues f).checked = b.checked.map (List.map (Prod.map id f))
  := checkedFields_mapValues f b.fields

/-- A value of which it is only told whether it is null. -/
def masked (v : Value) : Value :=
  if v.isNull then .null else .bool true

theorem isNull_masked (v : Value) :
  (masked v).isNull = v.isNull
  := by
  cases v with
  | _ => rfl

variable {b b' : FieldBag}

/-- Bags of the same columns are the same without their values. -/
theorem mapValues_null_congr (h : b.names = b'.names) :
  b.mapValues (fun _ => .null) = b'.mapValues fun _ => .null
  := by
  have hfields := congrArg (List.map fun name => (name, Value.null)) h
  simp only [names, List.map_map] at hfields
  simp only [mapValues, mk.injEq]
  apply hfields

/-- Bags of the same columns with nulls in the same places are the same under their masks. -/
theorem mapValues_masked_congr (h : b.nulls = b'.nulls) :
  b.mapValues masked = b'.mapValues masked
  := by
  have hfields := congrArg
    (List.map fun (p : String × Bool) => (p.1, if p.2 then Value.null else .bool true)) h
  simp only [nulls, List.map_map] at hfields
  simp only [mapValues, mk.injEq]
  apply hfields

end FieldBag

namespace AdHoc

variable (table : Ident)

/-! ### Wordings -/

/-- The update of the rows of the given keys. -/
def updating (sets keys : List (Ident × Value)) : Fragment :=
  text "UPDATE " ++ ident table ++ text " SET " ++ assignments sets ++ keyFragment keys

/-- The deletion of the rows of the given keys. -/
def deleting (keys : List (Ident × Value)) : Fragment :=
  text "DELETE FROM " ++ ident table ++ keyFragment keys

/-- The question whether there are rows of the given keys. -/
def asking (keys : List (Ident × Value)) : Fragment :=
  text "SELECT 1 FROM " ++ ident table ++ keyFragment keys ++ text " LIMIT 1"

theorem plain_insertFragment (fields : List (Ident × Value)) :
  (insertFragment table fields).Plain
  := by
  have hidents : (idents (fields.map Prod.fst)).Plain := by
    apply plain_intercalate (plain_text (by decide))
    rw [List.forall_mem_map]
    intro i _
    apply plain_ident
  rw [insertFragment]
  apply plain_append.mpr ⟨plain_append.mpr ⟨plain_text (by decide), plain_ident table⟩, _⟩
  split
  · apply plain_text (by decide)
  · simp only [plain_append]
    use ⟨⟨⟨plain_text (by decide), hidents⟩, plain_text (by decide)⟩, plain_boundList _⟩,
      plain_text (by decide)

theorem legible_insertFragment (fields : List (Ident × Value)) :
  (insertFragment table fields).Legible
  := by
  have hidents : (idents (fields.map Prod.fst)).Legible := by
    apply legible_intercalate (by decide) (by decide)
    rw [List.forall_mem_map]
    intro i _
    apply legible_ident
  rw [insertFragment, append_assoc]
  apply legible_text_append (by decide)
  apply legible_ident_append
  split
  · apply legible_text (by decide)
  · simp only [append_assoc]
    apply legible_text_append (by decide)
    apply hidents.append
    · apply legible_text_append (by decide) (legible_boundList_closed _)
    · apply opensApart_text_append (by decide)

theorem plain_insertFragment_returning (fields : List (Ident × Value)) (key : Ident) :
  (insertFragment table fields ++ text " RETURNING " ++ ident key).Plain
  := by
  simp only [plain_append]
  use ⟨plain_insertFragment table fields, plain_text (by decide)⟩, plain_ident key

/-- Behind an insertion a text may stand that does not start like a name. -/
theorem legible_insertFragment_returning (fields : List (Ident × Value)) (key : Ident) :
  (insertFragment table fields ++ text " RETURNING " ++ ident key).Legible
  := by
  rw [append_assoc]
  apply (legible_insertFragment table fields).append
  · apply legible_text_append (by decide) (legible_ident key)
  · apply opensApart_text_append (by decide)

theorem plain_assignments (sets : List (Ident × Value)) :
  (assignments sets).Plain
  := by
  apply plain_joined (by decide)
  rw [List.forall_mem_map]
  rintro ⟨column, v⟩ _
  simp only [plain_append]
  use ⟨plain_ident column, plain_text (by decide)⟩, plain_bound v

theorem legible_assignment (column : Ident) (v : Value) :
  (ident column ++ text " = " ++ bound v).Legible
  := by
  rw [append_assoc]
  apply legible_ident_append column (legible_text_append (by decide) (legible_bound v))

theorem legible_assignments (sets : List (Ident × Value)) :
  (assignments sets).Legible
  := by
  apply legible_joined (by decide) (by decide)
  rw [List.forall_mem_map]
  rintro ⟨column, v⟩ _
  apply legible_assignment

theorem plain_updating (sets keys : List (Ident × Value)) :
  (updating table sets keys).Plain
  := by
  simp only [updating, plain_append]
  use ⟨⟨⟨plain_text (by decide), plain_ident table⟩, plain_text (by decide)⟩,
    plain_assignments sets⟩, Clause.plain_whereFragment _

theorem legible_updating (sets keys : List (Ident × Value)) :
  (updating table sets keys).Legible
  := by
  simp only [updating, append_assoc]
  apply legible_text_append (by decide)
  apply legible_ident_append
  apply legible_text_append (by decide)
  apply (legible_assignments sets).append (Clause.legible_whereFragment _)
    (Clause.opensApart_whereFragment _)

theorem plain_deleting (keys : List (Ident × Value)) :
  (deleting table keys).Plain
  := by
  simp only [deleting, plain_append]
  use ⟨plain_text (by decide), plain_ident table⟩, Clause.plain_whereFragment _

theorem legible_deleting (keys : List (Ident × Value)) :
  (deleting table keys).Legible
  := by
  rw [deleting, append_assoc]
  apply legible_text_append (by decide)
  apply legible_ident_append table (Clause.legible_whereFragment _)

theorem plain_asking (keys : List (Ident × Value)) :
  (asking table keys).Plain
  := by
  simp only [asking, plain_append]
  use ⟨⟨plain_text (by decide), plain_ident table⟩, Clause.plain_whereFragment _⟩,
    plain_text (by decide)

theorem legible_asking (keys : List (Ident × Value)) :
  (asking table keys).Legible
  := by
  simp only [asking, append_assoc]
  apply legible_text_append (by decide)
  apply legible_ident_append
  apply (Clause.legible_whereFragment _).append (legible_text (by decide))
    (opensApart_text (by decide))

/-! ### Texts without values -/

theorem outline_insertFragment (f : Value → Value) (fields : List (Ident × Value)) :
  (insertFragment table (fields.map (Prod.map id f))).outline
    = (insertFragment table fields).outline
  := by
  have hcolumns : (fields.map (Prod.map id f)).map Prod.fst = fields.map Prod.fst := by simp
  have hvalues : (boundList ((fields.map (Prod.map id f)).map Prod.snd)).outline
      = (boundList (fields.map Prod.snd)).outline := by
    rw [outline_boundList, outline_boundList]
    simp
  have hempty : (fields.map (Prod.map id f)).isEmpty = fields.isEmpty := by simp
  rw [insertFragment, insertFragment, hempty, hcolumns, outline_append, outline_append]
  split
  · rfl
  · simp only [outline_append, hvalues]

theorem outline_assignments (f : Value → Value) (sets : List (Ident × Value)) :
  (assignments (sets.map (Prod.map id f))).outline = (assignments sets).outline
  := by
  simp only [assignments, outline_joined, List.map_map]
  rfl

/-- The clauses of keys have the same outline when their values are null in the same places. -/
theorem outline_keyFragment {f : Value → Value} (h : ∀ v, (f v).isNull = v.isNull)
    (keys : List (Ident × Value)) :
  (keyFragment (keys.map (Prod.map id f))).outline = (keyFragment keys).outline
  := by
  apply Clause.outline_whereFragment
  rw [List.map_map, List.map_map, List.map_map]
  apply List.map_congr_left
  rintro ⟨column, v⟩ _
  simp only [Function.comp, Prod.map_apply, id, keyClause, h]
  split
  · rfl
  · rfl

theorem sql_insert_mapValues (f : Value → Value) (values : FieldBag) :
  (insert table (values.mapValues f)).map Statement.sql = (insert table values).map Statement.sql
  := by
  rw [insert, insert, FieldBag.checked_mapValues]
  cases values.checked with
  | error e => rfl
  | ok fields =>
      apply congrArg Except.ok
      apply sql_eq_of_outline (outline_insertFragment table f fields)

theorem sql_insertReturning_mapValues (f : Value → Value) (values : FieldBag) (keyColumn : String) :
  (insertReturning table (values.mapValues f) keyColumn).map Statement.sql
    = (insertReturning table values keyColumn).map Statement.sql
  := by
  rw [insertReturning, insertReturning, FieldBag.checked_mapValues]
  cases Ident.column keyColumn with
  | error e => rfl
  | ok key =>
      cases values.checked with
      | error e => rfl
      | ok fields =>
          apply congrArg Except.ok
          apply sql_eq_of_outline
          simp only [outline_append, outline_insertFragment]

theorem sql_update_mapValues (f : Value → Value) {g : Value → Value}
    (hg : ∀ v, (g v).isNull = v.isNull) (sets keys : FieldBag) :
  (update table (sets.mapValues f) (keys.mapValues g)).map Statement.sql
    = (update table sets keys).map Statement.sql
  := by
  rw [update, update, FieldBag.isEmpty_mapValues, FieldBag.isEmpty_mapValues,
    FieldBag.checked_mapValues, FieldBag.checked_mapValues]
  split
  · rfl
  · split
    · rfl
    · cases sets.checked with
      | error e => rfl
      | ok sets =>
          cases keys.checked with
          | error e => rfl
          | ok keys =>
              apply congrArg Except.ok
              apply sql_eq_of_outline
              simp only [outline_append, outline_assignments, outline_keyFragment hg]

theorem sql_delete_mapValues {g : Value → Value} (hg : ∀ v, (g v).isNull = v.isNull)
    (keys : FieldBag) :
  (delete table (keys.mapValues g)).map Statement.sql = (delete table keys).map Statement.sql
  := by
  rw [delete, delete, FieldBag.isEmpty_mapValues, FieldBag.checked_mapValues]
  split
  · rfl
  · cases keys.checked with
    | error e => rfl
    | ok keys =>
        apply congrArg Except.ok
        apply sql_eq_of_outline
        simp only [outline_append, outline_keyFragment hg]

theorem sql_exists?_mapValues {g : Value → Value} (hg : ∀ v, (g v).isNull = v.isNull)
    (keys : FieldBag) :
  (exists? table (keys.mapValues g)).map Statement.sql = (exists? table keys).map Statement.sql
  := by
  rw [exists?, exists?, FieldBag.checked_mapValues]
  cases keys.checked with
  | error e => rfl
  | ok keys =>
      apply congrArg Except.ok
      apply sql_eq_of_outline
      simp only [outline_append, outline_keyFragment hg]

end AdHoc

end BoundSql
