import BoundSql.Proofs.Entity.Columns
import BoundSql.Proofs.Entity.Restriction

/-!
# Picked rows

A statement that changes rows says which rows it picks, by one clause or more
behind its WHERE. A field bag picks by one clause for each of its keys, an update
of an entity by the equality of the key, and the deletion that marks rows by the
clauses of a restriction. Without keys and with silent steps only there is no
statement.
-/

namespace BoundSql

open Fragment

/-! ### Reading the clauses -/

/-- The table of a statement that deletes rows, and the clauses that pick them. -/
def Statement.readRemoval? (s : Statement) : Option (Ident × List Clause) := do
  let symbols ← s.symbols?
  let symbols ← Symbol.takeText? "DELETE FROM ".toList symbols
  let (name, symbols) := Symbol.takeName symbols
  let table ← Symbol.ident? name
  let symbols ← Symbol.takeText? " WHERE ".toList symbols
  let (clauses, rest) ← Clause.takeAll? symbols
  if rest.isEmpty then some (table, clauses) else none

/-- The clauses by which a statement picks the rows that it changes. -/
def Statement.readPicks? (s : Statement) : Option (List Clause) :=
  s.readModification?.map (·.clauses) <|> s.readRemoval?.map Prod.snd

theorem Statement.readPicks?_of_readModification? {s : Statement} {m : Modification}
    (h : s.readModification? = some m) :
  s.readPicks? = some m.clauses
  := by
  rw [readPicks?, h]
  rfl

namespace AdHoc

variable (table : Ident)

/-- The clauses of keys. -/
def keyClauses (keys : List (Ident × Value)) : List Clause :=
  keys.map fun (column, v) => keyClause column v

theorem keyFragment_eq {keys : List (Ident × Value)} (h : keys ≠ []) :
  keyFragment keys = text " WHERE " ++ Clause.conjunction (keyClauses keys)
  := by
  rw [keyFragment, ← keyClauses, Clause.whereFragment, if_neg]
  simpa [keyClauses] using h

/-- The update of the rows of keys is a modification. -/
theorem updating_eq_fragment (sets : List (Ident × Value)) {keys : List (Ident × Value)}
    (h : keys ≠ []) :
  updating table sets keys
    = Modification.fragment ⟨table, sets.map Assignment.ofPair, keyClauses keys⟩
  := by
  have hsets : assignments sets = joined ", " ((sets.map Assignment.ofPair).map
      Assignment.fragment) := by
    rw [assignments, List.map_map]
    rfl
  rw [updating, keyFragment_eq h, hsets, Modification.fragment]
  simp only [append_assoc]

theorem readPicks?_updating {sets keys : List (Ident × Value)} (hsets : sets ≠ [])
    (hkeys : keys ≠ []) :
  (updating table sets keys).build.readPicks? = some (keyClauses keys)
  := by
  have hread := Modification.readModification?_build
    ⟨table, sets.map Assignment.ofPair, keyClauses keys⟩ (by simpa using hsets)
    (by simpa [keyClauses] using hkeys)
  rw [updating_eq_fragment table sets hkeys]
  apply Statement.readPicks?_of_readModification? hread

theorem readRemoval?_deleting {keys : List (Ident × Value)} (h : keys ≠ []) :
  (deleting table keys).build.readRemoval? = some (table, keyClauses keys)
  := by
  obtain ⟨key, keys, rfl⟩ := List.exists_cons_of_ne_nil h
  have hclause := Clause.takeAll?_append (keyClause key.1 key.2) (keyClauses keys) (s := []) rfl
  rw [List.append_nil] at hclause
  have hname := Symbol.takeName_ident_text table (t := " WHERE ") (by decide)
  rw [Statement.readRemoval?, Statement.symbols?_build (legible_deleting table _), deleting,
    keyFragment_eq h]
  simp only [append_assoc, symbols_append, Option.bind_eq_bind, Option.bind_some,
    Symbol.takeText?_symbols, hname, Symbol.ident?_toList]
  rw [keyClauses, List.map_cons, ← keyClauses, hclause]
  rfl

theorem readPicks?_deleting {keys : List (Ident × Value)} (h : keys ≠ []) :
  (deleting table keys).build.readPicks? = some (keyClauses keys)
  := by
  have hupdate : (deleting table keys).build.readModification? = none := by
    rw [Statement.readModification?, Statement.symbols?_build (legible_deleting table _), deleting]
    simp only [append_assoc, symbols_append, symbols_text]
    rfl
  rw [Statement.readPicks?, hupdate, readRemoval?_deleting table h]
  rfl

end AdHoc

/-! ### Checked bags -/

namespace FieldBag

/-- Checked columns and values are those of the fields in order. -/
theorem forall₂_of_checkedFields {fields : List (String × Value)} {checked : List (Ident × Value)}
    (h : checkedFields fields = .ok checked) :
  List.Forall₂ (fun field checked => Ident.column field.1 = .ok checked.1 ∧ checked.2 = field.2)
    fields checked
  := by
  induction fields generalizing checked with
  | nil =>
      obtain rfl := Except.ok.inj h
      apply List.Forall₂.nil
  | cons field fields ih =>
      rw [checkedFields] at h
      obtain ⟨column, hcolumn, h⟩ := bind_eq_ok.mp h
      obtain ⟨rest, hrest, ⟨⟩⟩ := bind_eq_ok.mp h
      apply List.Forall₂.cons ⟨hcolumn, rfl⟩ (ih hrest)

/-- A checked bag is empty only when the bag is. -/
theorem ne_nil_of_checked {b : FieldBag} {fields : List (Ident × Value)}
    (h : b.checked = .ok fields) (hne : ¬ b.isEmpty = true) :
  fields ≠ []
  := by
  rintro rfl
  apply hne
  rw [isEmpty_iff_fields, List.forall₂_nil_right_iff.mp (forall₂_of_checkedFields h)]

end FieldBag

/-! ### Changes -/

/-- What changes rows: an update or a deletion of a field bag's rows, an update of an entity, and
the deletion that marks the rows of a restriction. -/
inductive Change where
  | update (table : Ident) (sets keys : FieldBag)
  | delete (table : Ident) (keys : FieldBag)
  | edit (u : Update) (e : Entity) (stamp : Option Stamp)
  | mark (entity : Except Error Entity) (steps : List WhereBuilder.Step) (stamp : Stamp)

namespace Change

/-- The statement of a change. -/
def compile : Change → Except Error Statement
  | .update table sets keys => AdHoc.update table sets keys
  | .delete table keys => AdHoc.delete table keys
  | .edit u e stamp => u.compile e stamp
  | .mark entity steps stamp => do
    let rows ← ((WhereBuilder.start entity).run steps).build
    (← entity).softDelete rows stamp

/-- A key and the clause that picks its rows. -/
def PicksKey (key : String × Value) (clause : Clause) : Prop :=
  ∃ column, Ident.column key.1 = .ok column ∧ clause = AdHoc.keyClause column key.2

/-- The clauses by which a change picks its rows. -/
def Picks : Change → List Clause → Prop
  | .update _ _ keys, clauses => List.Forall₂ PicksKey keys.fields clauses
  | .delete _ keys, clauses => List.Forall₂ PicksKey keys.fields clauses
  | .edit u e _, clauses => clauses = .compare e.key.column .equal u.id :: u.check e
  | .mark entity steps _, clauses => ∃ e, entity = .ok e ∧ clauses = steps.flatMap (·.clauses e)

/-- Whether a change picks no rows: it has no keys, or its steps are silent. -/
def Unpicked : Change → Prop
  | .update _ _ keys => keys.fields = []
  | .delete _ keys => keys.fields = []
  | .edit _ _ _ => False
  | .mark entity steps _ => ∃ e, entity = .ok e ∧ ∀ s ∈ steps, s.Silent e

/-- The error that counts in the restriction of a change. -/
def fault? : Change → Option Error
  | .mark entity steps _ => WhereBuilder.fault? entity steps
  | _ => none

theorem picks_of_checked {b : FieldBag} {keys : List (Ident × Value)} (h : b.checked = .ok keys) :
  List.Forall₂ PicksKey b.fields (AdHoc.keyClauses keys)
  := by
  rw [AdHoc.keyClauses, List.forall₂_map_right_iff]
  apply (FieldBag.forall₂_of_checkedFields h).imp
  rintro key ⟨column, v⟩ ⟨hcolumn, rfl⟩
  use column, hcolumn

variable {s : Statement}

theorem picks_of_update {table : Ident} {sets keys : FieldBag}
    (h : AdHoc.update table sets keys = .ok s) :
  ∃ clauses, clauses ≠ [] ∧ s.readPicks? = some clauses
    ∧ List.Forall₂ PicksKey keys.fields clauses
  := by
  rw [AdHoc.update] at h
  split at h
  · contradiction
  · next hkeys =>
      split at h
      · contradiction
      · next hsets =>
          obtain ⟨checkedSets, hcheckedSets, h⟩ := bind_eq_ok.mp h
          obtain ⟨checkedKeys, hcheckedKeys, ⟨⟩⟩ := bind_eq_ok.mp h
          have hne := FieldBag.ne_nil_of_checked hcheckedKeys hkeys
          use AdHoc.keyClauses checkedKeys, by simpa [AdHoc.keyClauses] using hne
          use AdHoc.readPicks?_updating table (FieldBag.ne_nil_of_checked hcheckedSets hsets) hne
          apply picks_of_checked hcheckedKeys

theorem picks_of_delete {table : Ident} {keys : FieldBag} (h : AdHoc.delete table keys = .ok s) :
  ∃ clauses, clauses ≠ [] ∧ s.readPicks? = some clauses
    ∧ List.Forall₂ PicksKey keys.fields clauses
  := by
  rw [AdHoc.delete] at h
  split at h
  · contradiction
  · next hkeys =>
      obtain ⟨checkedKeys, hcheckedKeys, ⟨⟩⟩ := bind_eq_ok.mp h
      have hne := FieldBag.ne_nil_of_checked hcheckedKeys hkeys
      use AdHoc.keyClauses checkedKeys, by simpa [AdHoc.keyClauses] using hne
      use AdHoc.readPicks?_deleting table hne
      apply picks_of_checked hcheckedKeys

/-- A statement that changes rows says the clauses by which the change picks them, and there is at
least one. -/
theorem picks_of_compile {c : Change} (h : c.compile = .ok s) :
  ∃ clauses, clauses ≠ [] ∧ s.readPicks? = some clauses ∧ c.Picks clauses
  := by
  cases c with
  | update table sets keys => apply picks_of_update h
  | delete table keys => apply picks_of_delete h
  | edit u e stamp =>
      obtain ⟨plan, hplan, hread⟩ := Update.readModification?_of_compile h
      obtain ⟨rfl, -⟩ := Update.planned_of_plan hplan
      refine ⟨_, ?_, Statement.readPicks?_of_readModification? hread, rfl⟩
      apply List.cons_ne_nil
  | mark entity steps stamp =>
      obtain ⟨rows, hrows, h⟩ := bind_eq_ok.mp h
      obtain ⟨e, hentity, h⟩ := bind_eq_ok.mp h
      use rows.clauses, rows.clauses_ne_nil
      use Statement.readPicks?_of_readModification? (Entity.readModification?_of_softDelete h)
      obtain ⟨e', rfl, hrequirements⟩ := WhereBuilder.requirements_of_build hrows
      use e', rfl
      rw [WhereBuilder.Step.flatMap_clauses, Restriction.clauses, hrequirements]

/-- A change that picks no rows has no statement. -/
theorem compile_of_unpicked {c : Change} (h : c.Unpicked) :
  c.compile = .error .emptyPredicate
  := by
  cases c with
  | update table sets keys =>
      rw [compile, AdHoc.update, if_pos (FieldBag.isEmpty_iff_fields.mpr h)]
  | delete table keys =>
      rw [compile, AdHoc.delete, if_pos (FieldBag.isEmpty_iff_fields.mpr h)]
  | edit u e stamp => cases h
  | mark entity steps stamp =>
      obtain ⟨e, rfl, hsilent⟩ := h
      rw [compile, WhereBuilder.build_of_silent hsilent]
      rfl

/-- An error that counts in the restriction is the error of the change. -/
theorem compile_of_fault {c : Change} {err : Error} (h : c.fault? = some err) :
  c.compile = .error err
  := by
  cases c with
  | mark entity steps stamp =>
      rw [compile, WhereBuilder.build_of_fault h]
      rfl
  | _ => contradiction

/-- Every statement that changes rows picks them by one clause or more: by one for each key of a
bag, by the equality of the entity's key, or by those of the restriction. A change without keys, or
with silent steps only, is refused as empty; an error that counts in the restriction refuses the
change as well. -/
theorem compile_spec (c : Change) :
  (∀ s, c.compile = .ok s →
      ∃ clauses, clauses ≠ [] ∧ s.readPicks? = some clauses ∧ c.Picks clauses)
    ∧ (c.Unpicked → c.compile = .error .emptyPredicate)
    ∧ ∀ err, c.fault? = some err → c.compile = .error err
  := ⟨fun _ => picks_of_compile, compile_of_unpicked, fun _ => compile_of_fault⟩

/-- The deletion of the lot with the number 9 says so, and a label outside of no values deletes
nothing. -/
theorem compile_spec_lot :
  (∃ s, compile (.mark (.ok lot) [.field "id" (.compare .equal (.int 9)),
        .field "label" (.notAmong [])] editing) = .ok s
      ∧ s.readPicks? = some [.compare lotKey.column .equal (.int 9)])
    ∧ compile (.mark (.ok lot) [.field "label" (.notAmong []), .optional "id" none] editing)
      = .error .emptyPredicate
    ∧ compile (.mark (.ok lot) [.field "size" .null] editing)
      = .error (.unknownField "Lot" "size")
  := by
  refine ⟨?_, ?_, ?_⟩
  · have hcompile : compile (.mark (.ok lot) [.field "id" (.compare .equal (.int 9)),
        .field "label" (.notAmong [])] editing)
        = .ok (lot.deletion ⟨[⟨lotKey.column, .compare .equal (.int 9)⟩], List.cons_ne_nil _ _⟩
          editing).fragment.build := by rfl
    obtain ⟨clauses, _, hread, e, he, rfl⟩ := (compile_spec _).1 _ hcompile
    obtain rfl := Except.ok.inj he
    refine ⟨_, hcompile, hread⟩
  · apply (compile_spec _).2.1
    use lot, rfl
    intro s hs
    rcases List.mem_pair.mp hs with rfl | rfl
    · use rfl
    · trivial
  · apply (compile_spec _).2.2
    rfl

/-- A name that addresses no field is an error even when it is asked to be outside of no values. -/
theorem not_compile_emptyPredicate :
  ¬ ∀ (e : Entity) (steps : List WhereBuilder.Step) (stamp : Stamp),
    (∀ s ∈ steps, ∃ name, s = .field name (.notAmong []) ∨ s = .optional name none) →
      compile (.mark (.ok e) steps stamp) = .error .emptyPredicate
  := by
  intro h
  have hcompile : compile (.mark (.ok lot) [.field "nope" (.notAmong [])] editing)
      = .error (.unknownField "Lot" "nope") := by rfl
  have hempty := h lot [.field "nope" (.notAmong [])] editing
    (fun s hs => ⟨"nope", .inl (List.mem_singleton.mp hs)⟩)
  rw [hcompile] at hempty
  cases Except.error.inj hempty

end Change

end BoundSql
