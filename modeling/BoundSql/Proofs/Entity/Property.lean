import BoundSql.Proofs.Entity.Respelling
import BoundSql.Proofs.Ident

/-!
# Properties as names

The property of a field addresses the first field whose property is the same up to
letter case, which is the field itself exactly when no field in front of it has
such a property. A predicate that names a property concerns the column of the
field that it addresses, and so does a value that an update sets under it. A
selection gives each column the name of its own property.
-/

namespace BoundSql

open BoundSql.Text Fragment

namespace Entity

variable {e : Entity} {name : String} {i j : Nat} {f g : Field}

/-! ### Positions of properties -/

/-- A field at a position is the first one whose property has a name. -/
structure FirstWithProperty (e : Entity) (name : String) (j : Nat) (g : Field) : Prop where
  field : e.fields[j]? = some g
  named : sameName g.property name = true
  first : ∀ k other, k < j → e.fields[k]? = some other → sameName other.property name = false

/-- The first field whose property has a name is what the name addresses. -/
theorem FirstWithProperty.position? (h : e.FirstWithProperty name j g) :
  e.position? name = some j
  := by
  have hfind : (e.fields.findIdx? fun f => sameName f.property name) = some j := by
    obtain ⟨hj, hfield⟩ := List.getElem?_eq_some_iff.mp h.field
    rw [List.findIdx?_eq_some_iff_getElem]
    use hj
    rw [hfield]
    use h.named
    intro k hk
    rw [h.first k _ hk (List.getElem?_eq_getElem (hk.trans hj))]
    apply Bool.false_ne_true
  rw [Entity.position?, hfind, Option.some_or]

theorem exists_firstWithProperty (h : e.fields[i]? = some f) :
  ∃ j g, e.FirstWithProperty f.property j g ∧ j ≤ i
  := by
  obtain ⟨hi, rfl⟩ := List.getElem?_eq_some_iff.mp h
  have hsome : ∃ j,
      (e.fields.findIdx? fun g => sameName g.property e.fields[i].property) = some j := by
    rw [← Option.isSome_iff_exists, List.findIdx?_isSome, List.any_eq_true]
    use e.fields[i], List.getElem_mem hi
    apply sameName_refl
  obtain ⟨j, hj⟩ := hsome
  obtain ⟨hlt, hnamed, hfirst⟩ := List.findIdx?_eq_some_iff_getElem.mp hj
  use j, e.fields[j]
  constructor
  · constructor
    · apply List.getElem?_eq_getElem
    · apply hnamed
    · intro k other hk hother
      obtain ⟨_, rfl⟩ := List.getElem?_eq_some_iff.mp hother
      simpa using hfirst k hk
  · by_contra hlater
    apply hfirst i (Nat.lt_of_not_le hlater)
    apply sameName_refl

/-- Fields at different positions are mapped to different columns. -/
theorem isNamed_of_lt (hj : e.fields[j]? = some g) (hi : e.fields[i]? = some f) (h : j < i) :
  g.column.isNamed f.column.text = false
  := by
  obtain ⟨hlt, rfl⟩ := List.getElem?_eq_some_iff.mp hj
  obtain ⟨hlt', rfl⟩ := List.getElem?_eq_some_iff.mp hi
  apply List.pairwise_iff_getElem.mp e.distinct j i hlt hlt' h

theorem position_unique (hi : e.fields[i]? = some f) (hj : e.fields[j]? = some f) :
  i = j
  := by
  have hsame : f.column.isNamed f.column.text = true := sameName_refl _
  rcases lt_trichotomy i j with h | h | h
  · rw [isNamed_of_lt hi hj h] at hsame
    contradiction
  · apply h
  · rw [isNamed_of_lt hj hi h] at hsame
    contradiction

/-- A name addresses a field exactly when it has the position of the field. -/
theorem field?_eq_some_iff (h : e.fields[i]? = some f) (name : String) :
  e.field? name = some f ↔ e.position? name = some i
  := by
  rw [field?, Option.bind_eq_some_iff]
  constructor
  · rintro ⟨j, hj, hfield⟩
    rw [hj, position_unique hfield h]
  · intro hi
    use i, hi

/-! ### What names concern -/

/-- A predicate on a field is asked of its column. -/
theorem field_of_position? {b : WhereBuilder} (hb : b.entity = .ok e)
    (hfield : e.fields[i]? = some f) (h : e.position? name = some i) (p : Predicate) :
  b.field name p = { b with requirements := b.requirements ++ (p.requirement? f.column).toList }
  := by
  obtain ⟨_, requirements, failure⟩ := b
  obtain rfl := hb
  rw [WhereBuilder.field]
  dsimp only
  rw [(field?_eq_some_iff hfield name).mpr h]

/-- Columns under the names of their properties, as they are written. -/
def selectedText (f : Field) : List Char :=
  f.column.text.toList ++ " AS ".toList ++ f.property.toList

theorem symbols_selectedList {fields : List Field} {columns : List Fragment}
    (h : selectedList fields = .ok columns) :
  columns.map symbols = (fields.map selectedText).map (List.map .char)
  := by
  induction fields generalizing columns with
  | nil =>
      obtain rfl := Except.ok.inj h
      rfl
  | cons f fields ih =>
      rw [selectedList] at h
      obtain ⟨first, hfirst, h⟩ := bind_eq_ok.mp h
      obtain ⟨rest, hrest, h⟩ := bind_eq_ok.mp h
      obtain rfl := Except.ok.inj h
      rw [selected] at hfirst
      obtain ⟨property, hproperty, hfirst⟩ := bind_eq_ok.mp hfirst
      obtain rfl := Except.ok.inj hfirst
      rw [List.map_cons, ih hrest, List.map_cons, List.map_cons, selectedText,
        ← Ident.text_of_column hproperty]
      simp [symbols_append, symbols_ident, symbols_text]

/-- A selection lists every column under its own property. -/
theorem sql_select {rows : Restriction} {first : Bool} {s : Statement}
    (h : e.select rows first = .ok s) :
  ∃ rest, s.sql.toList = "SELECT ".toList
    ++ ", ".toList.intercalate (e.fields.map selectedText) ++ " FROM ".toList ++ rest
  := by
  rw [select] at h
  obtain ⟨columns, hcolumns, h⟩ := bind_eq_ok.mp h
  obtain rfl := Except.ok.inj h
  rw [build, toList_sql]
  simp only [append_assoc, symbols_append, symbols_text, symbols_intercalate,
    symbols_selectedList hcolumns, Symbol.intercalate_map_char, Symbol.write_text,
    List.append_assoc]
  exact ⟨_, rfl⟩

end Entity

namespace Update

variable {e : Entity} {u : Update} {stamp : Option Stamp} {s : Statement} {i : Nat} {f : Field}

/-- The value that an update sets at a position: the last one that is set under a name of the
position and is not left out. -/
def given (u : Update) (e : Entity) (i : Nat) : Option Value :=
  ((((u.sets.fields.filter fun p => e.position? p.1 = some i).map Prod.snd).filter
    (isKept u.includesNulls)).getLast?)

/-- The values of a stamp are for the columns of the editor. -/
theorem isEditor_of_mem_edits {t : Stamp} {column : Ident} {v : Value}
    (h : .ofPair (column, v) ∈ Audit.edits t) :
  Audit.isEditor column = true
  := by
  rcases List.mem_cons.mp h with h | h
  · obtain rfl : column = Audit.updatedBy := (Assignment.mk.inj h).1
    decide +kernel
  · obtain rfl : column = Audit.updatedAt := (Assignment.mk.inj (List.mem_singleton.mp h)).1
    decide +kernel

/-- The statement of a plan assigns a value to the column of a field that the update keeps exactly
when the plan does. -/
theorem ofPair_mem_modification_iff {all : List (Field × Value)}
    (hall : Assignable e (all.map Prod.fst)) (hf : f ∈ e.fields) (hkeeps : u.Keeps f) (v : Value) :
  .ofPair (f.column, v) ∈ (u.modification ⟨e, u.kept all⟩ stamp).sets ↔ (f, v) ∈ all
  := by
  have hedit : Assignment.ofPair (f.column, v) ∉ u.edits stamp := by
    intro h
    rw [edits] at h
    split at h
    · next haudits =>
        cases stamp with
        | none => contradiction
        | some t =>
            have heditor := isEditor_of_mem_edits h
            rw [hkeeps haudits] at heditor
            contradiction
    · contradiction
  have hbump : Assignment.ofPair (f.column, v) ∉ e.token.toList.map fun g => .bump g.column := by
    rw [List.mem_map]
    rintro ⟨g, -, h⟩
    cases (Assignment.mk.inj h).2
  rw [modification, List.mem_append, List.mem_append, or_iff_left hbump, or_iff_left hedit,
    List.mem_map]
  constructor
  · rintro ⟨⟨g, w⟩, hmem, hpair⟩
    obtain ⟨hcolumn, hvalue⟩ := Assignment.mk.inj hpair
    obtain rfl := Assigned.value.inj hvalue
    change g.column = f.column at hcolumn
    rw [mem_kept_iff] at hmem
    rw [← Entity.eq_of_column (hall.field g (List.mem_map_of_mem hmem.1)).1 hf hcolumn]
    apply hmem.1
  · intro hmem
    use (f, v), (mem_kept_iff u all f v).mpr ⟨hmem, hkeeps⟩

/-- A compiled update assigns to the column of a field that it keeps what is set at the position of
the field. -/
theorem ofPair_mem_iff_of_compile (h : u.compile e stamp = .ok s) :
  ∃ m, s.readModification? = some m
    ∧ ∀ i f, e.fields[i]? = some f → u.Keeps f →
      ∀ v, .ofPair (f.column, v) ∈ m.sets ↔ u.given e i = some v
  := by
  obtain ⟨plan, hplan, hread⟩ := readModification?_of_compile h
  obtain ⟨all, hall, rfl, -⟩ := exists_of_plan hplan
  have hassignable := assignable_of_assignments ⟨by simp, by simp⟩ hall
  use u.modification ⟨e, u.kept all⟩ stamp, hread
  intro i f hf hkeeps v
  rw [ofPair_mem_modification_iff hassignable (List.mem_of_getElem? hf) hkeeps,
    mem_iff_valueOf hassignable.nodup, valueOf_assignments hall, given]
  simp [addresses, Entity.field?_eq_some_iff hf, valueOf]

end Update

/-! ### Fields under their properties -/

namespace Entity

/-- The property of a field addresses the first field with that property, up to letter case: this is
the field itself exactly when no field in front of it has that property, and its column is then the
field's. Predicates and assignments under the property are those of the column of the field that it
addresses, and every column is selected under its own property. -/
theorem position?_property_iff (e : Entity) {i : Nat} {f : Field} (h : e.fields[i]? = some f) :
  (e.position? f.property = some i
      ↔ ∀ k other, k < i → e.fields[k]? = some other → sameName other.property f.property = false)
    ∧ ∃ j g, e.FirstWithProperty f.property j g ∧ e.position? f.property = some j
      ∧ (g.column.isNamed f.column.text = true ↔ j = i)
      ∧ (∀ (b : WhereBuilder) (p : Predicate), b.entity = .ok e →
        b.field f.property p
          = { b with requirements := b.requirements ++ (p.requirement? g.column).toList })
      ∧ (∀ (u : Update) (stamp : Option Stamp) (s : Statement), u.compile e stamp = .ok s →
        ∃ m, s.readModification? = some m
          ∧ ∀ k other, e.fields[k]? = some other → u.Keeps other →
            ∀ v, .ofPair (other.column, v) ∈ m.sets ↔ u.given e k = some v)
      ∧ ∀ (rows : Restriction) (first : Bool) (s : Statement), e.select rows first = .ok s →
        ∃ rest, s.sql.toList = "SELECT ".toList
          ++ ", ".toList.intercalate (e.fields.map selectedText) ++ " FROM ".toList ++ rest
  := by
  obtain ⟨j, g, hg, hj⟩ := exists_firstWithProperty h
  have hposition := hg.position?
  constructor
  · rw [hposition]
    constructor
    · intro hsame
      obtain rfl := Option.some.inj hsame
      apply hg.first
    · intro hfirst
      rcases Nat.lt_or_eq_of_le hj with hlt | rfl
      · have hnamed := hg.named
        rw [hfirst j g hlt hg.field] at hnamed
        contradiction
      · rfl
  · refine ⟨j, g, hg, hposition, ?_, ?_, ?_, ?_⟩
    · constructor
      · intro hnamed
        rcases Nat.lt_or_eq_of_le hj with hlt | rfl
        · rw [isNamed_of_lt hg.field h hlt] at hnamed
          contradiction
        · rfl
      · rintro rfl
        obtain rfl := Option.some.inj (hg.field.symm.trans h)
        apply sameName_refl
    · intro b p hb
      apply field_of_position? hb hg.field hposition
    · intro u stamp s hs
      apply Update.ofPair_mem_iff_of_compile hs
    · intro rows first s hs
      apply sql_select hs

/-- A label whose property differs from another one by a capital. -/
def capitalLabel : Field :=
  ⟨"Label", labelText.column, false, false, false⟩

/-- A lot with two labels whose properties are the same up to letter case. -/
def twiceLabeledLot : Entity where
  name := "Lot"
  table := lot.table
  fields := [lotKey, lotLabel, capitalLabel]
  key := lotKey
  token := none
  audited := false
  distinct := by decide +kernel
  keys_eq := by decide +kernel
  tokens_eq := by decide +kernel

/-- The declaration of such a lot. -/
def twiceLabeledLotShape : EntityShape where
  name := "Lot"
  table := "lot"
  audited := false
  fields := [{ property := "id", column := "id", isKey := true },
    { property := "label", column := "label" }, { property := "Label", column := "label_text" }]

/-- The property of the second label addresses the first one, and a predicate under it is asked of
the column of the first one. -/
theorem position?_property_iff_twiceLabeledLot :
  twiceLabeledLot.fields[2]? = some capitalLabel
    ∧ twiceLabeledLot.position? capitalLabel.property ≠ some 2
    ∧ (WhereBuilder.start (.ok twiceLabeledLot)).field capitalLabel.property .null
      = ⟨.ok twiceLabeledLot, [⟨lotLabel.column, .null⟩], none⟩
  := by
  have hfield : twiceLabeledLot.fields[2]? = some capitalLabel := by rfl
  obtain ⟨hown, j, g, hg, hposition, -, hpredicate, -⟩ :=
    position?_property_iff twiceLabeledLot hfield
  use hfield
  constructor
  · intro h
    have hdiffers := hown.mp h 1 lotLabel (by decide) rfl
    revert hdiffers
    decide +kernel
  · obtain rfl : 1 = j := by
      apply Option.some.inj
      rw [← hposition]
      decide +kernel
    obtain rfl := Option.some.inj hg.field
    apply hpredicate (WhereBuilder.start (.ok twiceLabeledLot)) .null rfl

/-- The property of the second label of such a lot has not the position of the label. -/
theorem not_position?_property :
  ¬ ∀ (s : EntityShape) (e : Entity) (i : Nat) (f : Field), ofShape s = .ok e →
    e.fields[i]? = some f → e.position? f.property = some i
  := by
  intro h
  have hshape : ofShape twiceLabeledLotShape = .ok twiceLabeledLot := by rfl
  have hposition := h _ _ 2 capitalLabel hshape rfl
  revert hposition
  decide +kernel

end Entity

end BoundSql
