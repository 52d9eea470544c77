import BoundSql.Proofs.Entity.Columns

/-!
# Insertions

An insertion lists the columns that it fills and a placeholder for each, and
binds the values in the order of the columns. The caller's values go to the
columns of fields that are neither generated nor the token, and that are not
named like an audit column when a stamp fills those. No column is listed twice,
and the values for fields that are not listed make no difference.
-/

namespace BoundSql

open BoundSql.Text Fragment

/-! ### The text of an insertion -/

/-- The text of an insertion into columns, with a placeholder for each. -/
def insertionText (table : Ident) (columns : List Ident) : List Char :=
  "INSERT INTO ".toList ++ table.text.toList
    ++ if columns.isEmpty then " DEFAULT VALUES".toList
    else " (".toList ++ ", ".toList.intercalate (columns.map (·.text.toList))
      ++ ") VALUES (".toList
      ++ ", ".toList.intercalate ((List.range' 1 columns.length).map placeholder) ++ ")".toList

theorem symbols_idents (columns : List Ident) :
  (idents columns).symbols
    = (", ".toList.intercalate (columns.map (·.text.toList))).map .char
  := by
  rw [idents, symbols_intercalate, symbols_text, List.map_map, ← Symbol.intercalate_map_char,
    List.map_map]
  congr 1
  apply List.map_congr_left
  intro column _
  apply symbols_ident

namespace AdHoc

/-- An insertion with a text behind it is written as its text and that one. -/
theorem sql_insertFragment_append (table : Ident) (fields : List (Ident × Value)) {f : Fragment}
    {t : List Char} (hf : f.symbols = t.map .char) :
  (insertFragment table fields ++ f).sql.toList = insertionText table (fields.map Prod.fst) ++ t
  := by
  rw [toList_sql, insertFragment]
  unfold insertionText
  cases fields with
  | nil =>
      simp only [List.map_nil, List.isEmpty_nil, if_true, symbols_append, symbols_text,
        symbols_ident, hf, ← List.map_append, Symbol.write_map_char]
  | cons p fields =>
      have hne : (p :: fields).map Prod.snd ≠ [] := List.cons_ne_nil _ _
      have hcons : ¬ (p :: fields).isEmpty = true := Bool.false_ne_true
      have hcons' : ¬ ((p :: fields).map Prod.fst).isEmpty = true := Bool.false_ne_true
      rw [if_neg hcons, if_neg hcons']
      simp only [symbols_append, symbols_idents, symbols_boundList hne, symbols_text,
        symbols_ident, hf, List.append_assoc, Symbol.write_text]
      rw [Symbol.write_append, write_slots, ← List.map_append, Symbol.write_map_char,
        List.length_map, List.length_map]

theorem params_insertFragment (table : Ident) (fields : List (Ident × Value)) :
  (insertFragment table fields).params = fields.map Prod.snd
  := by
  have hidents : ∀ columns : List Ident, (idents columns).params = [] := by
    intro columns
    rw [idents, params_intercalate, List.flatMap_map]
    simp [params_ident]
  rw [insertFragment]
  split
  · next hempty =>
      rw [List.isEmpty_iff] at hempty
      simp [params_text, params_ident, hempty]
  · simp [params_text, params_ident, hidents, params_boundList]

/-- An insertion with a text behind it binds its values in order. -/
theorem build_insertFragment_append (table : Ident) (fields : List (Ident × Value)) {f : Fragment}
    {t : List Char} (hf : f.symbols = t.map .char) :
  (insertFragment table fields ++ f).build
    = ⟨String.ofList (insertionText table (fields.map Prod.fst) ++ t), fields.map Prod.snd⟩
  := by
  have hnone : f.params = [] := by
    rw [params_eq_filterMap, hf, Symbol.filterMap_slot?_map_char]
  rw [build, params_append, params_insertFragment, hnone, List.append_nil,
    ← sql_insertFragment_append table fields hf, String.ofList_toList]

end AdHoc

/-! ### Columns and values -/

namespace Entity

/-- What a stamp fills into a new row of an audited table, by the names of the columns. -/
def stampedValues (e : Entity) : Option Stamp → List (String × Value)
  | none => []
  | some s =>
    if e.audited then
      [("created_by", .text s.user), ("created_at", .timestampTz s.time),
        ("updated_by", .text s.user), ("updated_at", .timestampTz s.time),
        ("is_deleted", .bool false)]
    else []

/-- A field takes the caller's value: it is neither generated nor the token, and its column is not
named like one that the stamp fills. -/
def TakesValue (e : Entity) (stamp : Option Stamp) (f : Field) : Prop :=
  f.isGenerated = false ∧ f.isToken = false
    ∧ ∀ p ∈ e.stampedValues stamp, sameName p.1 f.column.text = false

instance (e : Entity) (stamp : Option Stamp) (f : Field) : Decidable (e.TakesValue stamp f) :=
  inferInstanceAs (Decidable (_ ∧ _))

/-- Columns and values are those of a new row: the columns of the fields that take the caller's
values, then those that the stamp fills. A column of a field has the value at the place of the
field. -/
structure Lists (e : Entity) (values : List Value) (stamp : Option Stamp)
    (fields : List (Ident × Value)) : Prop where
  columns : fields.map (·.1.text)
    = (e.fields.filter (e.TakesValue stamp ·)).map (·.column.text)
      ++ (e.stampedValues stamp).map Prod.fst
  distinct : (fields.map (·.1.text)).Pairwise fun c d => sameName c d = false
  values : ∀ p ∈ fields,
    (∃ (i : Nat) (f : Field), e.fields[i]? = some f ∧ e.TakesValue stamp f ∧ f.column = p.1
      ∧ values[i]? = some p.2)
    ∨ (p.1.text, p.2) ∈ e.stampedValues stamp

/-- Two lists have the same values for the fields that take the caller's values. -/
def AgreeOnTaken (e : Entity) (stamp : Option Stamp) (values values' : List Value) : Prop :=
  values'.length = values.length ∧ ∀ (i : Nat) (f : Field), e.fields[i]? = some f →
    e.TakesValue stamp f → values'[i]? = values[i]?

theorem map_fst_filter_zip {α β : Type} (q : α → Bool) {as : List α} {bs : List β}
    (h : bs.length = as.length) :
  ((as.zip bs).filter fun p => q p.1).map Prod.fst = as.filter q
  := by
  have hfst : (as.zip bs).map Prod.fst = as := List.map_fst_zip (Nat.le_of_eq h.symm)
  conv_rhs => rw [← hfst, List.filter_map]
  rfl

theorem filter_zip_congr {α β : Type} (q : α → Bool) {as : List α} {bs bs' : List β}
    (hlength : bs'.length = bs.length)
    (h : ∀ (i : Nat) (a : α), as[i]? = some a → q a = true → bs'[i]? = bs[i]?) :
  (as.zip bs').filter (fun p => q p.1) = (as.zip bs).filter fun p => q p.1
  := by
  induction as generalizing bs bs' with
  | nil => rfl
  | cons a as ih =>
      cases bs with
      | nil =>
          obtain rfl := List.eq_nil_of_length_eq_zero hlength
          rfl
      | cons b bs =>
          obtain ⟨b', bs', rfl⟩ := List.exists_cons_of_length_eq_add_one hlength
          have htail := ih (Nat.succ.inj hlength) fun i a => h (i + 1) a
          rw [List.zip_cons_cons, List.zip_cons_cons, List.filter_cons, List.filter_cons, htail]
          split
          · next ha =>
              obtain rfl := Option.some.inj (h 0 a rfl ha)
              rfl
          · rfl

/-- The stamp that fills the audit columns of a new row. -/
def fillingStamp (e : Entity) (stamp : Option Stamp) : Option Stamp :=
  if e.audited then stamp else none

variable {e : Entity} {values : List Value} {stamp : Option Stamp}

theorem stampedValues_eq_map (e : Entity) (stamp : Option Stamp) :
  e.stampedValues stamp
    = ((e.fillingStamp stamp).elim [] creationFields).map fun p => (p.1.text, p.2)
  := by
  unfold fillingStamp
  cases stamp with
  | none => simp [stampedValues]
  | some s =>
      cases haudited : e.audited with
      | false => simp [stampedValues, haudited]
      | true =>
          simp only [stampedValues, haudited]
          rfl

theorem isAudit_eq_false_iff (s : Stamp) (column : Ident) :
  Audit.isAudit column = false
    ↔ ∀ p ∈ (creationFields s).map fun p => (p.1.text, p.2), sameName p.1 column.text = false
  := by
  rw [Audit.isAudit, List.any_eq_false]
  simp [Audit.columns, creationFields, Ident.isNamed]

/-- The caller's values are inserted for the fields that take them. -/
theorem isInserted_eq_decide (e : Entity) (stamp : Option Stamp) (f : Field) :
  isInserted (e.fillingStamp stamp).isSome f = decide (e.TakesValue stamp f)
  := by
  have hstamped : (∀ p ∈ e.stampedValues stamp, sameName p.1 f.column.text = false)
      ↔ ((e.fillingStamp stamp).isSome && Audit.isAudit f.column) = false := by
    rw [stampedValues_eq_map]
    cases e.fillingStamp stamp with
    | none => simp
    | some s => simpa using (isAudit_eq_false_iff s f.column).symm
  rw [Bool.eq_iff_iff, decide_eq_true_iff, TakesValue, hstamped, isInserted]
  simp only [Bool.and_eq_true, Bool.not_eq_true', and_assoc]

theorem insertedFields_eq (e : Entity) (values : List Value) (stamp : Option Stamp) :
  e.insertedFields values stamp
    = ((e.fields.zip values).filter fun p => e.TakesValue stamp p.1).map
        (fun p => (p.1.column, p.2))
      ++ (e.fillingStamp stamp).elim [] creationFields
  := by
  simp only [← isInserted_eq_decide]
  rfl

theorem distinct_listed (e : Entity) (stamp : Option Stamp) :
  ((e.fields.filter (e.TakesValue stamp ·)).map (·.column.text)
      ++ (e.stampedValues stamp).map Prod.fst).Pairwise fun c d => sameName c d = false
  := by
  rw [List.pairwise_append, List.pairwise_map]
  refine ⟨e.distinct.filter _, ?_, ?_⟩
  · cases stamp with
    | none => apply List.Pairwise.nil
    | some s =>
        rw [stampedValues]
        split
        · change List.Pairwise _
            ["created_by", "created_at", "updated_by", "updated_at", "is_deleted"]
          decide
        · apply List.Pairwise.nil
  · intro c hc d hd
    obtain ⟨f, hf, rfl⟩ := List.mem_map.mp hc
    obtain ⟨p, hp, rfl⟩ := List.mem_map.mp hd
    rw [sameName_comm]
    apply (of_decide_eq_true (List.mem_filter.mp hf).2).2.2 p hp

/-- The columns and values of an insertion are those of a new row. -/
theorem lists_insertedFields (h : values.length = e.fields.length) :
  e.Lists values stamp (e.insertedFields values stamp)
  := by
  have hcolumns : (e.insertedFields values stamp).map (·.1.text)
      = (e.fields.filter (e.TakesValue stamp ·)).map (·.column.text)
        ++ (e.stampedValues stamp).map Prod.fst := by
    rw [← map_fst_filter_zip (e.TakesValue stamp ·) h, insertedFields_eq, stampedValues_eq_map]
    simp only [List.map_append, List.map_map]
    rfl
  constructor
  · apply hcolumns
  · rw [hcolumns]
    apply distinct_listed
  · intro p hp
    rw [insertedFields_eq] at hp
    rcases List.mem_append.mp hp with hp | hp
    · left
      obtain ⟨⟨f, v⟩, hpair, rfl⟩ := List.mem_map.mp hp
      obtain ⟨hzip, htakes⟩ := List.mem_filter.mp hpair
      obtain ⟨i, hi⟩ := List.mem_iff_getElem?.mp hzip
      rw [List.getElem?_zip_eq_some] at hi
      use i, f, hi.1, of_decide_eq_true htakes, rfl, hi.2
    · right
      rw [stampedValues_eq_map]
      apply List.mem_map_of_mem hp

theorem insertedFields_congr {values' : List Value} (h : e.AgreeOnTaken stamp values values') :
  e.insertedFields values' stamp = e.insertedFields values stamp
  := by
  have hzip := filter_zip_congr (e.TakesValue stamp ·) h.1 fun i f hf htakes =>
    h.2 i f hf (of_decide_eq_true htakes)
  rw [insertedFields_eq, insertedFields_eq, hzip]

/-- A row is refused when it has another number of values than the entity has fields. Otherwise it
is inserted with the columns and values of a new row, and values that are not inserted make no
difference. -/
theorem insert_lists (e : Entity) (values : List Value) (stamp : Option Stamp) :
  (values.length ≠ e.fields.length
      ∧ e.insert values stamp
        = .error (.badEntity e.name (.valueCount e.fields.length values.length))
      ∧ e.insertReturningKey values stamp
        = .error (.badEntity e.name (.valueCount e.fields.length values.length))
    ∨ values.length = e.fields.length
      ∧ ∃ fields, e.Lists values stamp fields
        ∧ e.insert values stamp
          = .ok ⟨String.ofList (insertionText e.table (fields.map Prod.fst)), fields.map Prod.snd⟩
        ∧ e.insertReturningKey values stamp
          = .ok ⟨String.ofList (insertionText e.table (fields.map Prod.fst)
            ++ (" RETURNING ".toList ++ e.key.column.text.toList)), fields.map Prod.snd⟩)
    ∧ ∀ values', e.AgreeOnTaken stamp values values' →
      e.insert values' stamp = e.insert values stamp
        ∧ e.insertReturningKey values' stamp = e.insertReturningKey values stamp
  := by
  constructor
  · by_cases hlength : values.length = e.fields.length
    · right
      use hlength, e.insertedFields values stamp, lists_insertedFields hlength
      have hfragment : e.insertFragment values stamp
          = .ok (AdHoc.insertFragment e.table (e.insertedFields values stamp)) := by
        rw [insertFragment, if_neg (by simpa using hlength)]
        rfl
      have hplain := AdHoc.build_insertFragment_append e.table (e.insertedFields values stamp)
        (f := empty) (t := []) rfl
      rw [append_empty, List.append_nil] at hplain
      constructor
      · rw [insert, hfragment, ← hplain]
        rfl
      · have hreturning : (text " RETURNING " ++ ident e.key.column).symbols
            = (" RETURNING ".toList ++ e.key.column.text.toList).map .char := by
          rw [symbols_append, symbols_text, symbols_ident, List.map_append]
        rw [← AdHoc.build_insertFragment_append e.table _ hreturning, insertReturningKey,
          hfragment, ← append_assoc]
        rfl
    · left
      use hlength
      rw [insert, insertReturningKey, insertFragment, if_pos hlength]
      apply And.intro rfl rfl
  · intro values' h
    have hfragment : e.insertFragment values' stamp = e.insertFragment values stamp := by
      rw [insertFragment, insertFragment, h.1, insertedFields_congr h]
    rw [insert, insert, insertReturningKey, insertReturningKey, hfragment]
    apply And.intro rfl rfl

/-- The declaration of an audited lot with a generated key and a version, in which the caller has a
column for the creator too, in another letter case. -/
def signedLotShape : EntityShape where
  name := "Lot"
  table := "lot"
  audited := true
  fields := [{ property := "id", column := "id", isKey := true, isGenerated := true },
    { property := "creator", column := "Created_By" }, { property := "label", column := "label" },
    { property := "version", column := "version", isToken := true }]

/-- The key of a lot when it is generated. -/
def generatedKey : Field :=
  { lotKey with isGenerated := true }

/-- The creator of a lot, as the caller says. -/
def lotCreator : Field :=
  ⟨"creator", ⟨"Created_By", by decide⟩, false, false, false⟩

/-- Such a lot. -/
def signedLot : Entity where
  name := "Lot"
  table := lot.table
  fields := [generatedKey, lotCreator, lotLabel, lotVersion]
  key := generatedKey
  token := some lotVersion
  audited := true
  distinct := by decide +kernel
  keys_eq := by decide +kernel
  tokens_eq := by decide +kernel

/-- With a stamp only the label of a lot is the caller's: the creator is the stamp's, whoever the
caller says it is. Without a stamp the caller says who the creator is. -/
theorem insert_lists_signedLot :
  ofShape signedLotShape = .ok signedLot
    ∧ signedLot.AgreeOnTaken (some editing) [.int 1, .text "u-1", .text "A", .int 3]
      [.null, .text "root", .text "A", .null]
    ∧ signedLot.insert [.null, .text "root", .text "A", .null] (some editing)
      = signedLot.insert [.int 1, .text "u-1", .text "A", .int 3] (some editing)
    ∧ signedLot.insert [.int 1, .text "u-1", .text "A", .int 3] (some editing)
      = .ok ⟨"INSERT INTO lot (label, created_by, created_at, updated_by, updated_at, is_deleted)"
          ++ " VALUES ($1, $2, $3, $4, $5, $6)",
        [.text "A", .text "u-7", .timestampTz editing.time, .text "u-7", .timestampTz editing.time,
          .bool false]⟩
    ∧ signedLot.insert [.int 1, .text "u-1", .text "A", .int 3] none
      = .ok ⟨"INSERT INTO lot (Created_By, label) VALUES ($1, $2)", [.text "u-1", .text "A"]⟩
  := by
  have hagree : signedLot.AgreeOnTaken (some editing) [.int 1, .text "u-1", .text "A", .int 3]
      [.null, .text "root", .text "A", .null] := by
    use rfl
    intro i f hf htakes
    match i with
    | 0 =>
        obtain rfl := Option.some.inj hf
        cases htakes.1
    | 1 =>
        obtain rfl := Option.some.inj hf
        apply absurd (htakes.2.2 _ List.mem_cons_self)
        decide
    | 2 => rfl
    | 3 =>
        obtain rfl := Option.some.inj hf
        cases htakes.2.1
    | n + 4 => rfl
  use rfl, hagree, ((insert_lists signedLot _ (some editing)).2 _ hagree).1
  constructor
  · rfl
  · rfl

end Entity

end BoundSql
