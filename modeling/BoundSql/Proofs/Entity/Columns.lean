import BoundSql.Proofs.Entity.Modification

/-!
# Assigned columns

The assignments of a compiled update are those of its plan, then those of the
stamp, then the one that moves the token on. No column is assigned twice, unless
the token is kept in a column that the stamp of an audited update assigns. The
key is not assigned, unless it is the token or the stamp assigns its column.
-/

namespace BoundSql

open BoundSql.Text

theorem Ident.isNamed_comm (i j : Ident) :
  i.isNamed j.text = j.isNamed i.text
  := sameName_comm i.text j.text

/-! ### Fields of an entity -/

namespace Entity

variable {e : Entity}

/-- Different fields are mapped to different columns. -/
theorem isNamed_eq_false {f g : Field} (hf : f ∈ e.fields) (hg : g ∈ e.fields) (hne : f ≠ g) :
  f.column.isNamed g.column.text = false
  := by
  have hsymm : Std.Symm fun f g : Field => f.column.isNamed g.column.text = false := by
    constructor
    intro f g h
    rw [Ident.isNamed_comm]
    apply h
  apply e.distinct.forall hf hg hne

theorem eq_of_column {f g : Field} (hf : f ∈ e.fields) (hg : g ∈ e.fields)
    (h : f.column = g.column) :
  f = g
  := by
  by_contra hne
  have hdistinct := isNamed_eq_false hf hg hne
  simp [h, Ident.isNamed] at hdistinct

theorem mem_key (e : Entity) :
  e.key ∈ e.fields ∧ e.key.isKey = true
  := by
  have hkey : e.key ∈ e.fields.filter (·.isKey) := by
    rw [e.keys_eq]
    apply List.mem_singleton_self
  apply List.mem_filter.mp hkey

theorem mem_token {f : Field} (h : e.token = some f) :
  f ∈ e.fields ∧ f.isToken = true
  := by
  have htoken : f ∈ e.fields.filter (·.isToken) := by
    rw [e.tokens_eq, h]
    apply List.mem_singleton_self
  apply List.mem_filter.mp htoken

end Entity

namespace Update.Assignable

variable {e : Entity} {fields : List Field}

/-- A field that may be assigned is not mapped to the column of one that may not. -/
theorem isNamed_eq_false (h : Assignable e fields) {f g : Field} (hf : f ∈ fields)
    (hg : g ∈ e.fields) (hfixed : isAssignable g = false) :
  f.column.isNamed g.column.text = false
  := by
  obtain ⟨hmem, hassignable⟩ := h.field f hf
  apply Entity.isNamed_eq_false hmem hg
  rintro rfl
  rw [hfixed] at hassignable
  contradiction

theorem distinct (h : Assignable e fields) :
  fields.Pairwise fun f g => f.column.isNamed g.column.text = false
  := by
  apply h.nodup.imp_of_mem
  intro f g hf hg hne
  apply Entity.isNamed_eq_false (h.field f hf).1 (h.field g hg).1 hne

end Update.Assignable

/-! ### Columns of a modification -/

namespace Modification

/-- The columns that are assigned, in the order of the assignments. -/
def columns (m : Modification) : List Ident :=
  m.sets.map (·.column)

/-- No column is assigned twice. -/
def AssignsOnce (m : Modification) : Prop :=
  m.columns.Pairwise fun c d => c.isNamed d.text = false

/-- A column is assigned. -/
def Assigns (m : Modification) (column : Ident) : Prop :=
  ∃ c ∈ m.columns, c.isNamed column.text = true

instance (m : Modification) : Decidable m.AssignsOnce :=
  inferInstanceAs (Decidable (List.Pairwise _ _))

end Modification

/-- The columns of an edit. -/
def Audit.editors : List Ident :=
  [updatedBy, updatedAt]

theorem Audit.isEditor_iff (column : Ident) :
  isEditor column = true ↔ ∃ c ∈ editors, c.isNamed column.text = true
  := by
  simp [isEditor, editors]

namespace Update

variable {u : Update} {e : Entity} {stamp : Option Stamp} {s : Statement}

/-- The columns of the editor that an update stamps. -/
def stamped (u : Update) : List Ident :=
  if u.audits then Audit.editors else []

theorem mem_stamped_iff (u : Update) (column : Ident) :
  (∃ c ∈ u.stamped, c.isNamed column.text = true)
    ↔ u.audits = true ∧ Audit.isEditor column = true
  := by
  rw [Audit.isEditor_iff, stamped]
  cases u.audits with
  | false => simp
  | true => simp

/-- An audited update compiles under a stamp only. -/
theorem exists_stamp_of_compile (h : u.compile e stamp = .ok s) (haudits : u.audits = true) :
  ∃ t, stamp = some t
  := by
  rw [compile] at h
  obtain ⟨plan, -, hrender⟩ := bind_eq_ok.mp h
  cases stamp with
  | some t => use t
  | none =>
      unfold render at hrender
      rw [haudits] at hrender
      contradiction

/-- The columns of the plan, of the stamp, and of the token. -/
theorem columns_of_compile (h : u.compile e stamp = .ok s) :
  ∃ m fields, s.readModification? = some m ∧ Assignable e fields
    ∧ (u.audits = true → ∀ f ∈ fields, Audit.isEditor f.column = false)
    ∧ m.columns = fields.map (·.column) ++ u.stamped ++ e.token.toList.map (·.column)
  := by
  obtain ⟨plan, hplan, hread⟩ := readModification?_of_compile h
  obtain ⟨rfl, hplanned⟩ := planned_of_plan hplan
  use u.modification plan stamp, plan.assignments.map Prod.fst, hread, hplanned.assignable,
    hplanned.unstamped
  have hedits : (u.edits stamp).map (·.column) = u.stamped := by
    rw [edits, stamped]
    split
    · next haudits =>
        obtain ⟨t, rfl⟩ := exists_stamp_of_compile h haudits
        rfl
    · rfl
  rw [Modification.columns, modification, List.map_append, List.map_append, List.map_map,
    List.map_map, List.map_map, hedits]
  rfl

/-- The token collides with the stamp when it is kept in a column of the editor. -/
def StampsToken (u : Update) (e : Entity) : Prop :=
  u.audits = true ∧ ∃ f, e.token = some f ∧ Audit.isEditor f.column = true

/-- The key is assigned with the token or by the stamp. -/
def MovesKey (u : Update) (e : Entity) : Prop :=
  e.token = some e.key ∨ u.audits = true ∧ Audit.isEditor e.key.column = true

theorem stampsToken_iff (u : Update) (e : Entity) :
  u.StampsToken e ↔ ∃ c ∈ u.stamped, ∃ d ∈ e.token.toList.map (·.column), c.isNamed d.text = true
  := by
  constructor
  · rintro ⟨haudits, f, hf, heditor⟩
    obtain ⟨c, hc, hnamed⟩ := (mem_stamped_iff u f.column).mpr ⟨haudits, heditor⟩
    use c, hc, f.column
    simp [hf, hnamed]
  · rintro ⟨c, hc, d, hd, hnamed⟩
    obtain ⟨f, hf, rfl⟩ := List.mem_map.mp hd
    obtain ⟨haudits, heditor⟩ := (mem_stamped_iff u f.column).mp ⟨c, hc, hnamed⟩
    use haudits, f, Option.mem_toList.mp hf

variable {fields : List Field}

/-- The columns of a plan and of the stamp are different. -/
theorem distinct_append_stamped (h : Assignable e fields)
    (hunstamped : u.audits = true → ∀ f ∈ fields, Audit.isEditor f.column = false) :
  (fields.map (·.column) ++ u.stamped).Pairwise fun c d => c.isNamed d.text = false
  := by
  rw [List.pairwise_append, List.pairwise_map]
  refine ⟨h.distinct, ?_, ?_⟩
  · rw [stamped]
    split
    · decide
    · apply List.Pairwise.nil
  · intro c hc d hd
    obtain ⟨f, hf, rfl⟩ := List.mem_map.mp hc
    rw [Bool.eq_false_iff]
    intro hnamed
    rw [Ident.isNamed_comm] at hnamed
    obtain ⟨haudits, heditor⟩ := (mem_stamped_iff u f.column).mp ⟨d, hd, hnamed⟩
    rw [hunstamped haudits f hf] at heditor
    contradiction

/-- No column is assigned twice unless the token collides with the stamp. -/
theorem distinct_columns_iff (h : Assignable e fields)
    (hunstamped : u.audits = true → ∀ f ∈ fields, Audit.isEditor f.column = false) :
  (fields.map (·.column) ++ u.stamped ++ e.token.toList.map (·.column)).Pairwise
      (fun c d => c.isNamed d.text = false)
    ↔ ¬ u.StampsToken e
  := by
  have htoken : (e.token.toList.map (·.column)).Pairwise fun c d => c.isNamed d.text = false := by
    cases e.token with
    | none => apply List.Pairwise.nil
    | some f => apply List.pairwise_singleton
  have hfields : ∀ c ∈ fields.map (·.column), ∀ d ∈ e.token.toList.map (·.column),
      c.isNamed d.text = false := by
    intro c hc d hd
    obtain ⟨f, hf, rfl⟩ := List.mem_map.mp hc
    obtain ⟨g, hg, rfl⟩ := List.mem_map.mp hd
    obtain ⟨hmem, hisToken⟩ := Entity.mem_token (Option.mem_toList.mp hg)
    apply h.isNamed_eq_false hf hmem
    simp [isAssignable, hisToken]
  -- the token is no field of the plan, so only the stamp can collide with it
  rw [List.pairwise_append, stampsToken_iff]
  constructor
  · rintro ⟨-, -, hdistinct⟩ ⟨c, hc, d, hd, hnamed⟩
    rw [hdistinct c (List.mem_append_right _ hc) d hd] at hnamed
    contradiction
  · intro hstamped
    use distinct_append_stamped h hunstamped, htoken
    intro c hc d hd
    rcases List.mem_append.mp hc with hc | hc
    · apply hfields c hc d hd
    · rw [Bool.eq_false_iff]
      intro hnamed
      apply hstamped ⟨c, hc, d, hd, hnamed⟩

/-- The key is assigned with the token or by the stamp only. -/
theorem mem_columns_key_iff (h : Assignable e fields) :
  (∃ c ∈ fields.map (·.column) ++ u.stamped ++ e.token.toList.map (·.column),
      c.isNamed e.key.column.text = true)
    ↔ u.MovesKey e
  := by
  obtain ⟨hmem, hisKey⟩ := e.mem_key
  constructor
  · rintro ⟨c, hc, hnamed⟩
    rcases List.mem_append.mp hc with hc | hc
    · rcases List.mem_append.mp hc with hc | hc
      · obtain ⟨f, hf, rfl⟩ := List.mem_map.mp hc
        rw [h.isNamed_eq_false hf hmem (by simp [isAssignable, hisKey])] at hnamed
        contradiction
      · right
        apply (mem_stamped_iff u e.key.column).mp ⟨c, hc, hnamed⟩
    · obtain ⟨f, hf, rfl⟩ := List.mem_map.mp hc
      rw [Option.mem_toList] at hf
      left
      by_contra hne
      rw [Entity.isNamed_eq_false (Entity.mem_token hf).1 hmem] at hnamed
      · contradiction
      · rintro rfl
        contradiction
  · rintro (htoken | hstamped)
    · use e.key.column
      simp [htoken, Ident.isNamed]
    · obtain ⟨c, hc, hnamed⟩ := (mem_stamped_iff u e.key.column).mpr hstamped
      use c
      simp [hc, hnamed]

/-- No column is assigned twice, unless the token collides with the stamp, and the key is not
assigned, unless with the token or by the stamp. -/
theorem assignsOnce_of_compile (h : u.compile e stamp = .ok s) :
  ∃ m, s.readModification? = some m ∧ (m.AssignsOnce ↔ ¬ u.StampsToken e)
    ∧ (m.Assigns e.key.column ↔ u.MovesKey e)
  := by
  obtain ⟨m, fields, hread, hassignable, hunstamped, hcolumns⟩ := columns_of_compile h
  use m, hread
  rw [Modification.AssignsOnce, Modification.Assigns, hcolumns]
  use distinct_columns_iff hassignable hunstamped
  apply mem_columns_key_iff hassignable

end Update

/-! ### Lots -/

/-- The key of a lot. -/
def lotKey : Field :=
  ⟨"id", ⟨"id", by decide⟩, true, false, false⟩

/-- The label of a lot. -/
def lotLabel : Field :=
  ⟨"label", ⟨"label", by decide⟩, false, false, false⟩

/-- The version of a lot, its token. -/
def lotVersion : Field :=
  ⟨"version", ⟨"version", by decide⟩, false, true, false⟩

/-- An audited entity with a key, a label, and a version. -/
def lot : Entity where
  name := "Lot"
  table := ⟨"lot", by decide⟩
  fields := [lotKey, lotLabel, lotVersion]
  key := lotKey
  token := some lotVersion
  audited := true
  distinct := by decide +kernel
  keys_eq := by decide +kernel
  tokens_eq := by decide +kernel

/-- A new label for a lot that was read at version 1. -/
def relabeling : Update :=
  ({ id := .int 9, audits := true, token := some (.int 1) } : Update).set "label" (.text "A")

/-- An edit at the start of a day. -/
def editing : Stamp :=
  ⟨"u-7", Date.midnight ⟨0, by decide, by decide⟩⟩

/-- A new label, the editor and the version are assigned once each, and the key is not. -/
theorem Update.assignsOnce_of_compile_relabeling :
  ∃ s m, relabeling.compile lot (some editing) = .ok s ∧ s.readModification? = some m
    ∧ m.AssignsOnce ∧ ¬ m.Assigns lot.key.column
  := by
  have hcompile : relabeling.compile lot (some editing) = .ok (relabeling.modification
      ⟨lot, [(lotLabel, .text "A")]⟩ (some editing)).fragment.build := by rfl
  obtain ⟨m, hread, honce, hkey⟩ := assignsOnce_of_compile hcompile
  refine ⟨_, m, hcompile, hread, honce.mpr ?_, mt hkey.mp ?_⟩
  · rintro ⟨-, f, hf, heditor⟩
    obtain rfl := Option.some.inj hf
    revert heditor
    decide +kernel
  · rintro (htoken | ⟨-, heditor⟩)
    · revert htoken
      decide +kernel
    · revert heditor
      decide +kernel

/-- The version of a lot in the column for the time of its last edit. -/
def editedVersion : Field :=
  ⟨"version", Audit.updatedAt, false, true, false⟩

/-- A lot whose version is kept in the column for the time of its last edit. -/
def editedLot : Entity where
  name := "Lot"
  table := ⟨"lot", by decide⟩
  fields := [lotKey, lotLabel, editedVersion]
  key := lotKey
  token := some editedVersion
  audited := true
  distinct := by decide +kernel
  keys_eq := by decide +kernel
  tokens_eq := by decide +kernel

/-- The declaration of such a lot. -/
def editedLotShape : EntityShape where
  name := "Lot"
  table := "lot"
  audited := true
  fields := [{ property := "id", column := "id", isKey := true },
    { property := "label", column := "label" },
    { property := "version", column := "updated_at", isToken := true }]

/-- The stamp and the version of such a lot assign the time of its last edit twice. -/
theorem Update.not_assignsOnce_of_compile :
  ¬ ∀ (shape : EntityShape) (e : Entity) (u : Update) (stamp : Option Stamp) (s : Statement),
    Entity.ofShape shape = .ok e → u.compile e stamp = .ok s →
      ∃ m, s.readModification? = some m ∧ m.AssignsOnce ∧ ¬ m.Assigns e.key.column
  := by
  intro h
  have hshape : Entity.ofShape editedLotShape = .ok editedLot := by rfl
  have hplan : relabeling.plan editedLot = .ok ⟨editedLot, [(lotLabel, .text "A")]⟩ := by rfl
  have hcompile : relabeling.compile editedLot (some editing) = .ok (relabeling.modification
      ⟨editedLot, [(lotLabel, .text "A")]⟩ (some editing)).fragment.build := by rfl
  obtain ⟨m, hread, honce, -⟩ := h editedLotShape editedLot _ _ _ hshape hcompile
  obtain ⟨plan, hplan', hread'⟩ := readModification?_of_compile hcompile
  rw [hplan] at hplan'
  obtain rfl := Except.ok.inj hplan'
  rw [hread] at hread'
  obtain rfl := Option.some.inj hread'
  revert honce
  decide +kernel

end BoundSql
