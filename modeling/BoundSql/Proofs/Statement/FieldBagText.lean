import BoundSql.Proofs.FieldBag
import BoundSql.Proofs.Ident
import BoundSql.Proofs.Clause.Text
import BoundSql.Proofs.Entity.Insertion
import BoundSql.Proofs.Statement.Picking

/-!
# The text of statements of field bags

A statement of field bags says all columns of the bags in order, and each value
that it binds stands under the placeholder of its own column. A null key is asked
to be null and has no placeholder, so the columns behind it are numbered as if it
was not there. One bad name refuses the whole statement, but an empty bag that may
not be empty is found first.
-/

namespace BoundSql

open BoundSql.Text Fragment

/-! ### Equations -/

namespace FieldBag

/-- Equations of columns with values as they are written behind `n` values. A value that is left out
has no placeholder, its column is asked to be null. -/
def equations (omits : Value → Bool) : Nat → List (String × Value) → List (List Char)
  | _, [] => []
  | n, (name, v) :: r =>
    if omits v then (name.toList ++ " IS NULL".toList) :: equations omits n r
    else (name.toList ++ " = ".toList ++ placeholder (n + 1)) :: equations omits (n + 1) r

/-- The values of fields that are not left out, in order. -/
def boundValues (omits : Value → Bool) (fields : List (String × Value)) : List Value :=
  (fields.map Prod.snd).filter (!omits ·)

/-- An equation has the name of a field, and the placeholder under which the value of the field is
bound unless it is left out. -/
def States (omits : Value → Bool) (params : List Value) (field : String × Value)
    (equation : List Char) : Prop :=
  if omits field.2 then equation = field.1.toList ++ " IS NULL".toList
  else ∃ k, equation = field.1.toList ++ " = ".toList ++ placeholder (k + 1)
    ∧ params[k]? = some field.2

/-- Equations state the fields among any other values that are bound. -/
theorem states_equations (omits : Value → Bool) (fields : List (String × Value))
    (values after : List Value) :
  List.Forall₂ (States omits (values ++ boundValues omits fields ++ after)) fields
    (equations omits values.length fields)
  := by
  induction fields generalizing values with
  | nil => apply List.Forall₂.nil
  | cons field fields ih =>
      obtain ⟨name, v⟩ := field
      rw [equations, boundValues, List.map_cons]
      by_cases homits : omits v = true
      · rw [if_pos homits, List.filter_cons_of_neg (by simpa using homits)]
        apply List.Forall₂.cons
        · rw [States, if_pos homits]
        · apply ih
      · rw [if_neg homits, List.filter_cons_of_pos (by simpa using homits)]
        apply List.Forall₂.cons
        · rw [States, if_neg homits]
          use values.length, rfl
          simp
        · have htail := ih (values ++ [v])
          rw [List.length_append, List.append_assoc values, List.singleton_append] at htail
          apply htail

/-! ### Checked names -/

/-- Checked fields with the names of their columns. -/
def named (fields : List (Ident × Value)) : List (String × Value) :=
  fields.map (Prod.map Ident.text id)

theorem named_cons (column : Ident) (v : Value) (fields : List (Ident × Value)) :
  named ((column, v) :: fields) = (column.text, v) :: named fields
  := rfl

theorem map_snd_named (fields : List (Ident × Value)) :
  (named fields).map Prod.snd = fields.map Prod.snd
  := by simp [named]

theorem checkedFields_append (fields others : List (String × Value)) :
  checkedFields (fields ++ others)
    = (do
        let checked ← checkedFields fields
        let rest ← checkedFields others
        pure (checked ++ rest))
  := by
  induction fields with
  | nil =>
      rw [List.nil_append]
      cases checkedFields others with
      | error e => rfl
      | ok rest => rfl
  | cons field fields ih =>
      rw [List.cons_append, checkedFields, checkedFields, ih]
      cases Ident.column field.1 with
      | error e => rfl
      | ok column =>
          cases checkedFields fields with
          | error e => rfl
          | ok checked =>
              cases checkedFields others with
              | error e => rfl
              | ok rest => rfl

/-- Fields are checked when their names are names of columns. -/
theorem exists_checkedFields {fields : List (String × Value)}
    (h : ∀ p ∈ fields, Ident.IsColumnName p.1) :
  ∃ checked, checkedFields fields = .ok checked ∧ named checked = fields
  := by
  induction fields with
  | nil =>
      use []
      apply And.intro rfl rfl
  | cons field fields ih =>
      obtain ⟨name, v⟩ := field
      rw [List.forall_mem_cons] at h
      obtain ⟨column, hcolumn⟩ := Ident.exists_column_iff.mpr h.1
      obtain ⟨rest, hrest, hnamed⟩ := ih h.2
      use (column, v) :: rest
      constructor
      · rw [checkedFields, hcolumn, hrest]
        rfl
      · rw [named_cons, hnamed, Ident.text_of_column hcolumn]

/-- The fault is that of the first name that is none of a column. -/
def FirstFault (fields : List (String × Value)) (fault : NameFault) : Prop :=
  ∃ before name v after, fields = before ++ (name, v) :: after
    ∧ (∀ p ∈ before, Ident.IsColumnName p.1) ∧ Ident.ColumnFault name fault

theorem checkedFields_of_firstFault {fields : List (String × Value)} {fault : NameFault}
    (h : FirstFault fields fault) :
  checkedFields fields = .error (.badName fault)
  := by
  obtain ⟨before, name, v, after, rfl, hbefore, hfault⟩ := h
  obtain ⟨checked, hchecked, -⟩ := exists_checkedFields hbefore
  have hcolumn := Ident.column_eq_error_iff.mpr ⟨fault, hfault, rfl⟩
  rw [checkedFields_append, hchecked, checkedFields, hcolumn]
  rfl

theorem exists_firstFault {fields : List (String × Value)}
    (h : ¬ ∀ p ∈ fields, Ident.IsColumnName p.1) :
  ∃ fault, FirstFault fields fault
  := by
  induction fields with
  | nil => simp at h
  | cons field fields ih =>
      obtain ⟨name, v⟩ := field
      rw [List.forall_mem_cons] at h
      by_cases hname : Ident.IsColumnName name
      · have hrest := mt (And.intro hname) h
        obtain ⟨fault, before, name', v', after, rfl, hbefore, hfault⟩ := ih hrest
        refine ⟨fault, (name, v) :: before, name', v', after, rfl, ?_, hfault⟩
        rw [List.forall_mem_cons]
        use hname
      · rw [← Ident.not_columnFault_iff, not_forall] at hname
        obtain ⟨fault, hfault⟩ := hname
        use fault, [], name, v, fields, rfl, List.forall_mem_nil _
        apply not_not.mp hfault

end FieldBag

namespace AdHoc

open FieldBag

/-! ### Statements -/

/-- An answer refuses fields for their first bad name, and is a right statement when all names are
names of columns. -/
structure Answers (fields : List (String × Value)) (Right : Statement → Prop)
    (r : Except Error Statement) : Prop where
  refused_iff : (∃ fault, r = .error (.badName fault)) ↔ ∃ p ∈ fields, ¬ Ident.IsColumnName p.1
  first : ∀ fault, FirstFault fields fault → r = .error (.badName fault)
  right : (∀ p ∈ fields, Ident.IsColumnName p.1) → ∃ s, r = .ok s ∧ Right s

theorem answers_of {fields : List (String × Value)} {Right : Statement → Prop}
    {r : Except Error Statement}
    (hfirst : ∀ fault, FirstFault fields fault → r = .error (.badName fault))
    (hright : (∀ p ∈ fields, Ident.IsColumnName p.1) → ∃ s, r = .ok s ∧ Right s) :
  Answers fields Right r
  := by
  refine ⟨⟨?_, ?_⟩, hfirst, hright⟩
  · rintro ⟨fault, hr⟩
    by_contra hall
    push Not at hall
    obtain ⟨s, hs, -⟩ := hright hall
    rw [hr] at hs
    contradiction
  · rintro ⟨p, hp, hname⟩
    obtain ⟨fault, hfault⟩ := exists_firstFault fun hall => hname (hall p hp)
    use fault, hfirst fault hfault

/-- What is made of the checked fields of a bag is an answer. -/
theorem answers_of_checked {b : FieldBag} {f : List (Ident × Value) → Fragment}
    {Right : Statement → Prop} (h : ∀ fields, named fields = b.fields → Right (f fields).build) :
  Answers b.fields Right (do pure (f (← b.checked)).build)
  := by
  apply answers_of
  · intro fault hfault
    rw [checked, checkedFields_of_firstFault hfault]
    rfl
  · intro hall
    obtain ⟨fields, hfields, hnamed⟩ := exists_checkedFields hall
    use (f fields).build
    rw [checked, hfields]
    apply And.intro rfl (h fields hnamed)

/-- The keys of a statement as they are written behind `n` values. -/
def whereText (n : Nat) (keys : List (String × Value)) : List Char :=
  if keys.isEmpty then []
  else " WHERE ".toList ++ " AND ".toList.intercalate (equations Value.isNull n keys)

/-- A statement inserts fields: it lists their columns and as many placeholders, and binds the
values in the same order. -/
def Inserts (table : Ident) (fields : List (String × Value)) (s : Statement) : Prop :=
  ∃ columns : List Ident, columns.map Ident.text = fields.map Prod.fst
    ∧ s.sql.toList = insertionText table columns ∧ s.params = fields.map Prod.snd

/-- A statement picks rows by keys: between two texts it has the equations of the keys, and behind
other values it binds those of the keys that are not null. -/
structure PicksRows (head : List Char) (values : List Value) (keys : List (String × Value))
    (tail : List Char) (s : Statement) : Prop where
  text : s.sql.toList = head ++ whereText values.length keys ++ tail
  bound : s.params = values ++ boundValues Value.isNull keys
  keys : List.Forall₂ (States Value.isNull s.params) keys
    (equations Value.isNull values.length keys)

/-- A statement updates rows: it sets the columns of fields to the values that it binds first. -/
structure Updates (table : Ident) (sets keys : List (String × Value)) (s : Statement) : Prop
    extends PicksRows
      ("UPDATE ".toList ++ table.text.toList ++ " SET ".toList
        ++ ", ".toList.intercalate (equations (fun _ => false) 0 sets))
      (sets.map Prod.snd) keys [] s where
  sets : List.Forall₂ (States (fun _ => false) s.params) sets (equations (fun _ => false) 0 sets)

theorem keyClauses_cons (column : Ident) (v : Value) (keys : List (Ident × Value)) :
  keyClauses ((column, v) :: keys) = keyClause column v :: keyClauses keys
  := rfl

theorem writtenFrom_keyClauses (n : Nat) (keys : List (Ident × Value)) :
  Clause.writtenFrom n (keyClauses keys) = equations Value.isNull n (named keys)
  := by
  induction keys generalizing n with
  | nil => rfl
  | cons key keys ih =>
      obtain ⟨column, v⟩ := key
      rw [keyClauses_cons, Clause.writtenFrom, ih, named_cons, equations, keyClause]
      split
      · rfl
      · rfl

theorem values_keyClauses (keys : List (Ident × Value)) :
  (keyClauses keys).flatMap Clause.values = boundValues Value.isNull (named keys)
  := by
  rw [boundValues, map_snd_named]
  induction keys with
  | nil => rfl
  | cons key keys ih =>
      obtain ⟨column, v⟩ := key
      rw [keyClauses_cons, List.flatMap_cons, ih, keyClause, List.map_cons, List.filter_cons]
      cases v.isNull with
      | true => rfl
      | false => rfl

theorem params_keyFragment (keys : List (Ident × Value)) :
  (keyFragment keys).params = boundValues Value.isNull (named keys)
  := by
  rw [keyFragment, Clause.params_whereFragment, ← values_keyClauses]
  rfl

theorem write_keyFragment (n : Nat) (keys : List (Ident × Value)) :
  Symbol.write n (keyFragment keys).symbols = whereText n (named keys)
  := by
  rw [keyFragment, Clause.write_whereFragment, ← keyClauses, Clause.whereText,
    writtenFrom_keyClauses, whereText, keyClauses, named, List.isEmpty_map, List.isEmpty_map]

theorem append_text_empty (f : Fragment) :
  f ++ text "" = f
  := append_empty f

/-- Keys with a text behind them pick rows behind a fragment. -/
theorem picksRows_append {f : Fragment} {head : List Char} (hhead : f.sql.toList = head)
    (keys : List (Ident × Value)) (tail : String) :
  PicksRows head f.params (named keys) tail.toList (f ++ keyFragment keys ++ text tail).build
  := by
  have hparams : (f ++ keyFragment keys ++ text tail).params
      = f.params ++ boundValues Value.isNull (named keys) := by
    rw [params_append, params_append, params_text, params_keyFragment, List.append_nil]
  constructor
  · rw [build, toList_sql, symbols_append, symbols_append, List.append_assoc, Symbol.write_append,
      ← toList_sql, hhead, ← params_eq_filterMap, Symbol.write_append, write_keyFragment,
      symbols_text, Symbol.write_map_char, List.append_assoc, Nat.zero_add]
  · apply hparams
  · have hkeys := states_equations Value.isNull (named keys) f.params []
    rw [List.append_nil, ← hparams] at hkeys
    apply hkeys

/-- Values that are assigned are clauses with commas between them. -/
theorem assignments_eq_joined (sets : List (Ident × Value)) :
  assignments sets
    = joined ", " ((sets.map fun (column, v) => Clause.compare column .equal v).map Clause.fragment)
  := by
  rw [assignments, List.map_map]
  rfl

theorem writtenFrom_sets (n : Nat) (sets : List (Ident × Value)) :
  Clause.writtenFrom n (sets.map fun (column, v) => Clause.compare column .equal v)
    = equations (fun _ => false) n (named sets)
  := by
  induction sets generalizing n with
  | nil => rfl
  | cons p sets ih =>
      rw [named_cons, List.map_cons, Clause.writtenFrom, Clause.values, List.length_singleton, ih]
      rfl

theorem sql_updating (table : Ident) (sets : List (Ident × Value)) :
  (text "UPDATE " ++ ident table ++ text " SET " ++ assignments sets).sql.toList
    = "UPDATE ".toList ++ table.text.toList ++ " SET ".toList
      ++ ", ".toList.intercalate (equations (fun _ => false) 0 (named sets))
  := by
  rw [toList_sql, assignments_eq_joined]
  simp only [symbols_append, symbols_text, symbols_ident, List.append_assoc, Symbol.write_text]
  rw [Clause.write_joined, writtenFrom_sets]

theorem params_updating (table : Ident) (sets : List (Ident × Value)) :
  (text "UPDATE " ++ ident table ++ text " SET " ++ assignments sets).params
    = (named sets).map Prod.snd
  := by
  rw [assignments_eq_joined]
  simp only [params_append, params_text, params_ident, Clause.params_joined, List.nil_append]
  rw [map_snd_named, List.flatMap_map]
  apply List.flatMap_pure_eq_map

theorem updates_updating (table : Ident) (sets keys : List (Ident × Value)) :
  Updates table (named sets) (named keys) (updating table sets keys).build
  := by
  have hrows := picksRows_append (sql_updating table sets) keys ""
  rw [append_text_empty, params_updating] at hrows
  constructor
  · apply hrows
  · have hsets := states_equations (fun _ => false) (named sets) []
      (boundValues Value.isNull (named keys))
    have hall : boundValues (fun _ => false) (named sets) = (named sets).map Prod.snd := by
      simp [boundValues]
    rw [hall, List.nil_append, ← hrows.bound] at hsets
    apply hsets

/-! ### Answers -/

theorem answers_update (table : Ident) {sets keys : FieldBag} (hkeys : keys.fields ≠ [])
    (hsets : sets.fields ≠ []) :
  Answers (sets.fields ++ keys.fields) (Updates table sets.fields keys.fields)
    (update table sets keys)
  := by
  have hupdate : update table sets keys = (do
      let sets ← sets.checked
      let keys ← keys.checked
      pure (updating table sets keys).build) := by
    rw [update, if_neg (mt isEmpty_iff_fields.mp hkeys), if_neg (mt isEmpty_iff_fields.mp hsets)]
    rfl
  rw [hupdate]
  apply answers_of
  · intro fault hfault
    have hchecked := checkedFields_of_firstFault hfault
    rw [checkedFields_append] at hchecked
    rw [checked, checked]
    rcases bind_eq_error.mp hchecked with hs | ⟨checkedSets, hs, hrest⟩
    · rw [hs]
      rfl
    · rcases bind_eq_error.mp hrest with hk | ⟨checkedKeys, -, hpure⟩
      · rw [hs, hk]
        rfl
      · contradiction
  · intro hall
    rw [List.forall_mem_append] at hall
    obtain ⟨checkedSets, hs, hsets⟩ := exists_checkedFields hall.1
    obtain ⟨checkedKeys, hk, hkeys⟩ := exists_checkedFields hall.2
    use (updating table checkedSets checkedKeys).build
    rw [checked, checked, hs, hk]
    use rfl
    rw [← hsets, ← hkeys]
    apply updates_updating

/-- Keys alone pick rows behind a text and the name of the table. -/
theorem picksRows_table (before : String) (table : Ident) (keys : List (Ident × Value))
    (tail : String) :
  PicksRows (before.toList ++ table.text.toList) [] (named keys) tail.toList
    (text before ++ ident table ++ keyFragment keys ++ text tail).build
  := by
  have hhead : (text before ++ ident table).sql.toList = before.toList ++ table.text.toList := by
    rw [toList_sql, symbols_append, symbols_text, symbols_ident, ← List.map_append,
      Symbol.write_map_char]
  have hnone : (text before ++ ident table).params = [] := by
    rw [params_append, params_text, params_ident, List.append_nil]
  have hrows := picksRows_append hhead keys tail
  rw [hnone] at hrows
  apply hrows

theorem answers_delete (table : Ident) {keys : FieldBag} (hkeys : keys.fields ≠ []) :
  Answers keys.fields
    (PicksRows ("DELETE FROM ".toList ++ table.text.toList) [] keys.fields [])
    (delete table keys)
  := by
  rw [delete, if_neg (mt isEmpty_iff_fields.mp hkeys)]
  apply answers_of_checked
  intro checkedKeys hnamed
  rw [← hnamed, ← append_text_empty (_ ++ keyFragment checkedKeys)]
  apply picksRows_table "DELETE FROM " table checkedKeys ""

theorem answers_exists? (table : Ident) (keys : FieldBag) :
  Answers keys.fields
    (PicksRows ("SELECT 1 FROM ".toList ++ table.text.toList) [] keys.fields " LIMIT 1".toList)
    (exists? table keys)
  := by
  apply answers_of_checked
  intro checkedKeys hnamed
  rw [← hnamed]
  apply picksRows_table "SELECT 1 FROM " table checkedKeys " LIMIT 1"

theorem answers_insert (table : Ident) (values : FieldBag) :
  Answers values.fields (Inserts table values.fields) (insert table values)
  := by
  apply answers_of_checked
  intro fields hnamed
  use fields.map Prod.fst
  rw [← hnamed]
  refine ⟨?_, ?_, ?_⟩
  · simp [named]
  · have hsql := sql_insertFragment_append table fields (f := Fragment.empty) (t := []) rfl
    rw [append_empty, List.append_nil] at hsql
    apply hsql
  · rw [map_snd_named]
    apply params_insertFragment table

/-- The fields of a bag collect the sets by which it was filled. An insertion answers for the fields
that it lists, a question or a deletion for the keys, an update for the fields that it sets and then
for the keys; but without keys there is neither an update nor a deletion, and without fields that
are set no update. -/
theorem answers_of_bags (table : Ident) (values sets keys : FieldBag) :
  (∀ pairs, Collects pairs (ofPairs pairs).fields)
    ∧ Answers values.fields (Inserts table values.fields) (insert table values)
    ∧ Answers keys.fields
      (PicksRows ("SELECT 1 FROM ".toList ++ table.text.toList) [] keys.fields " LIMIT 1".toList)
      (exists? table keys)
    ∧ (keys.fields = [] → update table sets keys = .error .emptyPredicate
      ∧ delete table keys = .error .emptyPredicate)
    ∧ (keys.fields ≠ [] →
      Answers keys.fields
          (PicksRows ("DELETE FROM ".toList ++ table.text.toList) [] keys.fields [])
          (delete table keys)
        ∧ (sets.fields = [] → update table sets keys = .error .nothingToUpdate)
        ∧ (sets.fields ≠ [] →
          Answers (sets.fields ++ keys.fields) (Updates table sets.fields keys.fields)
            (update table sets keys)))
  := by
  use collects_ofPairs, answers_insert table values, answers_exists? table keys
  constructor
  · intro hkeys
    have hempty := isEmpty_iff_fields.mpr hkeys
    rw [update, delete, if_pos hempty, if_pos hempty]
    apply And.intro rfl rfl
  · intro hkeys
    use answers_delete table hkeys
    constructor
    · intro hsets
      rw [update, if_neg (mt isEmpty_iff_fields.mp hkeys), if_pos (isEmpty_iff_fields.mpr hsets)]
    · apply answers_update table hkeys

/-- A label that is set again and a null size go to the lots with the number 9 that have no owner.
A key with a semicolon deletes nothing. -/
theorem answers_of_bags_lot :
  (∃ s, update lot.table
        (ofPairs [("label", .text "A"), ("size", .null), ("LABEL", .text "B")])
        (ofPairs [("owner", .null), ("id", .int 9)]) = .ok s
      ∧ s.sql.toList
        = "UPDATE lot SET label = $1, size = $2 WHERE owner IS NULL AND id = $3".toList
      ∧ s.params = [.text "B", .null, .int 9])
    ∧ delete lot.table (ofPairs [("id", .int 9), ("a;b", .null)])
      = .error (.badName (.badCharacter ';' "a;b"))
  := by
  constructor
  · obtain ⟨-, -, -, -, hanswers⟩ := answers_of_bags lot.table FieldBag.empty
      (ofPairs [("label", .text "A"), ("size", .null), ("LABEL", .text "B")])
      (ofPairs [("owner", .null), ("id", .int 9)])
    obtain ⟨-, -, hupdate⟩ := hanswers (List.cons_ne_nil _ _)
    obtain ⟨s, hs, hright⟩ := (hupdate (List.cons_ne_nil _ _)).right (by decide)
    use s, hs, hright.text, hright.bound
  · obtain ⟨-, -, -, -, hanswers⟩ := answers_of_bags lot.table FieldBag.empty FieldBag.empty
      (ofPairs [("id", .int 9), ("a;b", .null)])
    obtain ⟨hdelete, -⟩ := hanswers (List.cons_ne_nil _ _)
    apply hdelete.first
    use [("id", .int 9)], "a;b", .null, [], rfl, by decide
    have hchars : "a;b".toList = ['a'] ++ ';' :: ['b'] := rfl
    apply Ident.ColumnFault.spelling (Ident.SpellingFault.badCharacter hchars _ _)
    · rw [List.forall_mem_singleton]
      decide
    · decide

end AdHoc

end BoundSql
