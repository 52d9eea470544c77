import BoundSql.Proofs.Entity.Respelling
import BoundSql.Proofs.Ident

/-!
# Declarations of entities

A declaration is accepted exactly when its table is a qualified name, its columns
are column names of which no two are the same, exactly one of its fields is the
key and at most one is the token. The entity has the declared fields in order,
and its key and its token are the fields that are declared to be. Any other
declaration is refused for its table, else for its first field that does not fit
behind the fields in front of it, else for its missing key.
-/

namespace BoundSql

open BoundSql.Text

/-! ### Declared fields -/

namespace FieldShape

/-- A field is what a declared one is mapped to. -/
structure Maps (shape : FieldShape) (f : Field) : Prop where
  property : f.property = shape.property
  column : f.column.text = shape.column
  isKey : f.isKey = shape.isKey
  isToken : f.isToken = shape.isToken
  isGenerated : f.isGenerated = shape.isGenerated

/-- Declared fields fit together: their columns are column names and no two are the same, and they
have one key and one token at most. -/
structure Fit (shapes : List FieldShape) : Prop where
  columns : ∀ shape ∈ shapes, Ident.IsColumnName shape.column
  distinct : shapes.Pairwise fun shape other => sameName shape.column other.column = false
  oneKey : shapes.countP (·.isKey) ≤ 1
  oneToken : shapes.countP (·.isToken) ≤ 1

/-- How a declared field clashes with others in front of it, by the first check that it fails. -/
inductive Clash (before : List FieldShape) (shape : FieldShape) : EntityFault → Prop where
  | mappedTwice (h : ∃ other ∈ before, sameName other.column shape.column = true) :
      Clash before shape (.mappedTwice shape.column)
  | compositeKey (hcolumn : ∀ other ∈ before, sameName other.column shape.column = false)
      (h : shape.isKey = true) (hbefore : ∃ other ∈ before, other.isKey = true) :
      Clash before shape .compositeKey
  | secondToken (hcolumn : ∀ other ∈ before, sameName other.column shape.column = false)
      (hkey : shape.isKey = true → ∀ other ∈ before, other.isKey = false)
      (h : shape.isToken = true) (hbefore : ∃ other ∈ before, other.isToken = true) :
      Clash before shape .secondToken

/-- What is wrong with a declared field behind others: its column is no column name, or it clashes
with them. -/
inductive Fault (entity : String) (before : List FieldShape) (shape : FieldShape) :
    Error → Prop where
  | name {fault : NameFault} (h : Ident.ColumnFault shape.column fault) :
      Fault entity before shape (.badName fault)
  | clash {fault : EntityFault} (hname : Ident.IsColumnName shape.column)
      (h : shape.Clash before fault) : Fault entity before shape (.badEntity entity fault)

variable {entity : String} {before after : List FieldShape} {shape : FieldShape} {f : Field}
  {fields : List Field} {err : Error}

theorem Fit.of_append (h : Fit (before ++ after)) :
  Fit before
  := by
  constructor
  · intro shape hshape
    apply h.columns shape (List.mem_append_left _ hshape)
  · apply (List.pairwise_append.mp h.distinct).1
  · have hkey := h.oneKey
    rw [List.countP_append] at hkey
    omega
  · have htoken := h.oneToken
    rw [List.countP_append] at htoken
    omega

/-- One more field has a flag at most once when none of the others has it or it has not. -/
theorem countP_append_singleton_le_one_iff {q : FieldShape → Bool} (h : before.countP q ≤ 1) :
  (before ++ [shape]).countP q ≤ 1 ↔ (q shape = true → ∀ other ∈ before, q other = false)
  := by
  have hnone : before.countP q = 0 ↔ ∀ other ∈ before, q other = false := by
    simp [List.countP_eq_zero]
  rw [List.countP_append, List.countP_singleton, ← hnone]
  cases q shape with
  | true => simp
  | false => simpa using h

/-- A field clashes with none of the others exactly when each check on it passes. -/
theorem not_clash_iff :
  (∀ fault, ¬ shape.Clash before fault)
    ↔ (∀ other ∈ before, sameName other.column shape.column = false)
      ∧ (shape.isKey = true → ∀ other ∈ before, other.isKey = false)
      ∧ (shape.isToken = true → ∀ other ∈ before, other.isToken = false)
  := by
  constructor
  · intro hnone
    have hcolumn : ∀ other ∈ before, sameName other.column shape.column = false := by
      intro other hother
      rw [← Bool.not_eq_true]
      intro hsame
      apply hnone _ (.mappedTwice ⟨other, hother, hsame⟩)
    have hkey : shape.isKey = true → ∀ other ∈ before, other.isKey = false := by
      intro h other hother
      rw [← Bool.not_eq_true]
      intro hflag
      apply hnone _ (.compositeKey hcolumn h ⟨other, hother, hflag⟩)
    use hcolumn, hkey
    intro h other hother
    rw [← Bool.not_eq_true]
    intro hflag
    apply hnone _ (.secondToken hcolumn hkey h ⟨other, hother, hflag⟩)
  · rintro ⟨hcolumn, hkey, htoken⟩ fault hclash
    cases hclash with
    | mappedTwice h =>
        obtain ⟨other, hother, hsame⟩ := h
        rw [hcolumn other hother] at hsame
        contradiction
    | compositeKey _ h hbefore =>
        obtain ⟨other, hother, hflag⟩ := hbefore
        rw [hkey h other hother] at hflag
        contradiction
    | secondToken _ _ h hbefore =>
        obtain ⟨other, hother, hflag⟩ := hbefore
        rw [htoken h other hother] at hflag
        contradiction

/-- Nothing is wrong with a field exactly when its column is a column name and it does not clash. -/
theorem not_fault_iff :
  (∀ err, ¬ shape.Fault entity before err)
    ↔ Ident.IsColumnName shape.column ∧ ∀ fault, ¬ shape.Clash before fault
  := by
  rw [← Ident.not_columnFault_iff]
  constructor
  · intro hnone
    have hname : ∀ fault, ¬ Ident.ColumnFault shape.column fault := by
      intro fault hfault
      apply hnone _ (.name hfault)
    use hname
    intro fault hclash
    apply hnone _ (.clash (Ident.not_columnFault_iff.mp hname) hclash)
  · rintro ⟨hname, hclash⟩ err hfault
    cases hfault with
    | name h => apply hname _ h
    | clash _ h => apply hclash _ h

/-- A field fits behind fields that fit together exactly when nothing is wrong with it. -/
theorem Fit.append_iff (h : Fit before) (entity : String) :
  Fit (before ++ [shape]) ↔ ∀ err, ¬ shape.Fault entity before err
  := by
  rw [not_fault_iff, not_clash_iff, ← countP_append_singleton_le_one_iff h.oneKey,
    ← countP_append_singleton_le_one_iff h.oneToken]
  constructor
  · intro happend
    refine ⟨?_, ?_, happend.oneKey, happend.oneToken⟩
    · apply happend.columns shape (by simp)
    · intro other hother
      apply (List.pairwise_append.mp happend.distinct).2.2 other hother shape (by simp)
  · rintro ⟨hname, hcolumn, hkey, htoken⟩
    refine ⟨?_, ?_, hkey, htoken⟩
    · rw [List.forall_mem_append]
      use h.columns
      simpa using hname
    · rw [List.pairwise_append]
      use h.distinct, List.pairwise_singleton _ _
      simpa using hcolumn

theorem Fit.not_fault (h : Fit (before ++ shape :: after)) (entity : String) (err : Error) :
  ¬ shape.Fault entity before err
  := by
  rw [List.append_cons] at h
  apply (h.of_append.of_append.append_iff entity).mp h.of_append

/-! ### Mapped fields -/

theorem field_eq_error_iff :
  shape.field = .error err ↔ ∃ fault, Ident.ColumnFault shape.column fault ∧ err = .badName fault
  := by
  rw [← Ident.column_eq_error_iff, field]
  cases Ident.column shape.column with
  | error e => simp [bind, Except.bind]
  | ok i => simp [bind, Except.bind, pure, Except.pure]

theorem maps_of_field (h : shape.field = .ok f) :
  shape.Maps f ∧ Ident.IsColumnName shape.column
  := by
  obtain ⟨column, hcolumn, hf⟩ := bind_eq_ok.mp h
  obtain rfl := Except.ok.inj hf
  constructor
  · constructor
    · rfl
    · apply Ident.text_of_column hcolumn
    · rfl
    · rfl
    · rfl
  · rw [← Ident.exists_column_iff]
    use column

theorem any_of_forall₂ (hfields : List.Forall₂ Maps before fields) {p : Field → Bool}
    {q : FieldShape → Bool} (h : ∀ shape f, Maps shape f → p f = q shape) :
  fields.any p = before.any q
  := by
  induction hfields with
  | nil => rfl
  | cons hmaps _ ih => rw [List.any_cons, List.any_cons, h _ _ hmaps, ih]

/-- No mapped field has a flag exactly when no declared one has it. -/
theorem filter_eq_nil_iff_of_forall₂ (hfields : List.Forall₂ Maps before fields) {p : Field → Bool}
    {q : FieldShape → Bool} (h : ∀ shape f, Maps shape f → p f = q shape) :
  fields.filter p = [] ↔ ∀ shape ∈ before, q shape = false
  := by
  rw [List.filter_eq_nil_iff, ← List.any_eq_false, any_of_forall₂ hfields h, List.any_eq_false]
  simp

/-- A mapped field does not fit behind mapped ones for the clash of the declared ones. -/
theorem fault?_eq_some_iff (hfields : List.Forall₂ Maps before fields) (hf : shape.Maps f)
    (fault : EntityFault) :
  f.fault? fields = some fault ↔ shape.Clash before fault
  := by
  have hcolumn : fields.any (·.column.isNamed f.column.text)
      = before.any fun other => sameName other.column shape.column := by
    apply any_of_forall₂ hfields
    intro other g hg
    rw [Ident.isNamed, hg.column, hf.column]
  have hkey : fields.any (·.isKey) = before.any (·.isKey) :=
    any_of_forall₂ hfields fun _ _ hg => hg.isKey
  have htoken : fields.any (·.isToken) = before.any (·.isToken) :=
    any_of_forall₂ hfields fun _ _ hg => hg.isToken
  rw [Field.fault?, hcolumn, hkey, htoken, hf.isKey, hf.isToken, hf.column]
  constructor
  · intro hfault
    split at hfault
    · next hsame =>
        obtain rfl := Option.some.inj hfault
        apply Clash.mappedTwice
        simpa using hsame
    · next hdistinct =>
        have hcolumns : ∀ other ∈ before, sameName other.column shape.column = false := by
          simpa using hdistinct
        split at hfault
        · next hsecond =>
            obtain rfl := Option.some.inj hfault
            rw [Bool.and_eq_true, List.any_eq_true] at hsecond
            apply Clash.compositeKey hcolumns hsecond.1 hsecond.2
        · next hfirst =>
            split at hfault
            · next hsecond =>
                obtain rfl := Option.some.inj hfault
                rw [Bool.and_eq_true, List.any_eq_true] at hsecond
                apply Clash.secondToken hcolumns (by simpa using hfirst) hsecond.1 hsecond.2
            · contradiction
  · intro hclash
    cases hclash with
    | mappedTwice h => rw [if_pos (by simpa using h)]
    | compositeKey hcolumns h hbefore =>
        rw [if_neg (by simpa using hcolumns), if_pos (by simpa [h] using hbefore)]
    | secondToken hcolumns hkeys h hbefore =>
        rw [if_neg (by simpa using hcolumns), if_neg (by simpa using hkeys),
          if_pos (by simpa [h] using hbefore)]

/-- A field whose column is no column name is refused for that. -/
theorem fault_iff_of_field_error (h : shape.field = .error err) (err' : Error) :
  shape.Fault entity before err' ↔ err' = err
  := by
  obtain ⟨fault, hfault, rfl⟩ := field_eq_error_iff.mp h
  constructor
  · intro hother
    cases hother with
    | name hother =>
        rw [field_eq_error_iff.mpr ⟨_, hother, rfl⟩] at h
        apply Except.error.inj h
    | clash hname => apply absurd hfault (Ident.not_columnFault_iff.mpr hname _)
  · rintro rfl
    apply Fault.name hfault

/-- A mapped field is refused for what keeps it from fitting behind the mapped ones. -/
theorem fault_iff_of_maps (hfields : List.Forall₂ Maps before fields) (hf : shape.Maps f)
    (hname : Ident.IsColumnName shape.column) :
  shape.Fault entity before err
    ↔ ∃ fault, f.fault? fields = some fault ∧ err = .badEntity entity fault
  := by
  constructor
  · intro hfault
    cases hfault with
    | name h => apply absurd h (Ident.not_columnFault_iff.mpr hname _)
    | clash _ h => exact ⟨_, (fault?_eq_some_iff hfields hf _).mpr h, rfl⟩
  · rintro ⟨fault, h, rfl⟩
    apply Fault.clash hname ((fault?_eq_some_iff hfields hf fault).mp h)

end FieldShape

/-! ### Runs over declared fields -/

namespace Entity

open FieldShape

variable {name : String} {shapes done : List FieldShape} {shape : FieldShape} {err : Error}
  {before after : { fields : List Field // Compatible fields }}

/-- A run over declared fields refuses the first of them for what is wrong with it, else it goes on
behind it. -/
theorem accept_cons (hdone : List.Forall₂ Maps done before.1) (hfit : Fit done) (shape : FieldShape)
    (shapes : List FieldShape) :
  (∃ err, accept name before (shape :: shapes) = .error err
      ∧ ∀ err', shape.Fault name done err' ↔ err' = err)
    ∨ ∃ next : { fields : List Field // Compatible fields },
      accept name before (shape :: shapes) = accept name next shapes
        ∧ List.Forall₂ Maps (done ++ [shape]) next.1 ∧ Fit (done ++ [shape])
  := by
  rw [accept]
  split
  · next err hfield =>
      left
      use err, rfl
      apply fault_iff_of_field_error hfield
  · next f hfield =>
      obtain ⟨hf, hname⟩ := maps_of_field hfield
      split
      · next fault hfault =>
          left
          use .badEntity name fault, rfl
          intro err'
          rw [fault_iff_of_maps hdone hf hname, hfault]
          simp
      · next hnone =>
          right
          refine ⟨_, rfl, ?_, ?_⟩
          · apply List.rel_append hdone
            simpa using hf
          · rw [hfit.append_iff name]
            intro err
            rw [fault_iff_of_maps hdone hf hname, hnone]
            simp

/-- A run is refused exactly for what is wrong with the first field that does not fit. -/
theorem accept_eq_error_iff (hdone : List.Forall₂ Maps done before.1) (hfit : Fit done) :
  accept name before shapes = .error err
    ↔ ∃ mid shape rest, shapes = mid ++ shape :: rest ∧ Fit (done ++ mid)
      ∧ shape.Fault name (done ++ mid) err
  := by
  induction shapes generalizing done before with
  | nil => simp [accept]
  | cons first shapes ih =>
      rcases accept_cons hdone hfit first shapes with
        ⟨err', haccept, hfault⟩ | ⟨next, haccept, hnext, hfit'⟩
      · rw [haccept]
        constructor
        · intro h
          obtain rfl := Except.error.inj h
          use [], first, shapes, rfl
          rw [List.append_nil]
          use hfit
          rw [hfault]
        · rintro ⟨mid, shape, rest, hsplit, hmid, hshape⟩
          cases mid with
          | nil =>
              obtain ⟨rfl, -⟩ := List.cons.inj hsplit
              rw [List.append_nil, hfault] at hshape
              rw [hshape]
          | cons other mid =>
              obtain ⟨rfl, -⟩ := List.cons.inj hsplit
              apply absurd ((hfault err').mpr rfl) (hmid.not_fault name err')
      · rw [haccept, ih hnext hfit']
        constructor
        · rintro ⟨mid, shape, rest, rfl, hmid, hshape⟩
          use first :: mid, shape, rest, rfl
          rw [List.append_cons]
          use hmid, hshape
        · rintro ⟨mid, shape, rest, hsplit, hmid, hshape⟩
          cases mid with
          | nil =>
              obtain ⟨rfl, -⟩ := List.cons.inj hsplit
              rw [List.append_nil] at hshape
              apply absurd hshape ((hfit.append_iff name).mp hfit' err)
          | cons other mid =>
              obtain ⟨rfl, rfl⟩ := List.cons.inj hsplit
              rw [List.append_cons] at hmid hshape
              use mid, shape, rest, rfl, hmid

/-- A run that succeeds maps the declared fields in order, and they fit together. -/
theorem maps_of_accept (hdone : List.Forall₂ Maps done before.1) (hfit : Fit done)
    (h : accept name before shapes = .ok after) :
  List.Forall₂ Maps (done ++ shapes) after.1 ∧ Fit (done ++ shapes)
  := by
  induction shapes generalizing done before with
  | nil =>
      obtain rfl := Except.ok.inj h
      rw [List.append_nil]
      use hdone
  | cons first shapes ih =>
      rcases accept_cons hdone hfit first shapes with
        ⟨err', haccept, -⟩ | ⟨next, haccept, hnext, hfit'⟩
      · rw [haccept] at h
        contradiction
      · rw [haccept] at h
        rw [List.append_cons]
        apply ih hnext hfit' h

end Entity

/-! ### Declared entities -/

namespace EntityShape

open FieldShape

/-- What a declaration must be. -/
structure Acceptable (s : EntityShape) : Prop where
  table : Ident.IsQualifiedName s.table
  columns : ∀ shape ∈ s.fields, Ident.IsColumnName shape.column
  distinct : s.fields.Pairwise fun shape other => sameName shape.column other.column = false
  oneKey : s.fields.countP (·.isKey) = 1
  oneToken : s.fields.countP (·.isToken) ≤ 1

/-- What is wrong with a declaration: its table, the first field that does not fit behind those in
front of it, or that none of its fields is the key. -/
inductive Fault (s : EntityShape) : Error → Prop where
  | table {fault : NameFault} (h : Ident.QualifiedFault s.table fault) : Fault s (.badName fault)
  | field (htable : Ident.IsQualifiedName s.table) {before after : List FieldShape}
      {shape : FieldShape} {err : Error} (h : s.fields = before ++ shape :: after)
      (hfit : Fit before) (hfault : shape.Fault s.name before err) : Fault s err
  | missingKey (htable : Ident.IsQualifiedName s.table) (hfit : Fit s.fields)
      (h : ∀ shape ∈ s.fields, shape.isKey = false) : Fault s (.missingKey s.name)

/-- A field of an entity is the one that the declaration marks, and the only one. -/
def OnlyMarked (s : EntityShape) (e : Entity) (mark : FieldShape → Bool) (f : Field) : Prop :=
  ∃ i : Nat, e.fields[i]? = some f
    ∧ ∀ j shape, s.fields[j]? = some shape → (mark shape = true ↔ j = i)

/-- An entity is the one that is declared: it has the declared fields in order, and its key and its
token are those that are declared to be. -/
structure Describes (s : EntityShape) (e : Entity) : Prop where
  name : e.name = s.name
  table : e.table.text = s.table
  audited : e.audited = s.audited
  fields : List.Forall₂ Maps s.fields e.fields
  key : s.OnlyMarked e (·.isKey) e.key
  token : ∀ f, e.token = some f → s.OnlyMarked e (·.isToken) f
  noToken : e.token = none → ∀ shape ∈ s.fields, shape.isToken = false

end EntityShape

namespace Entity

open FieldShape

variable {s : EntityShape} {e : Entity} {table : Ident} {err : Error}

theorem compatible_nil :
  Compatible []
  := ⟨List.Pairwise.nil, by simp, by simp⟩

/-- No fields, which every run starts from. -/
def noFields : { fields : List Field // Compatible fields } :=
  ⟨[], compatible_nil⟩

theorem fit_nil :
  Fit []
  := ⟨by simp, List.Pairwise.nil, by simp, by simp⟩

theorem accept_noFields_eq_error_iff :
  accept s.name noFields s.fields = .error err
    ↔ ∃ before shape after, s.fields = before ++ shape :: after ∧ Fit before
      ∧ shape.Fault s.name before err
  := accept_eq_error_iff .nil fit_nil

/-- The entity of accepted fields, unless none of them is the key. -/
theorem ofShape_of_accept {after : { fields : List Field // Compatible fields }}
    (htable : Ident.qualified s.table = .ok table)
    (h : accept s.name noFields s.fields = .ok after) :
  (after.1.filter (·.isKey) = [] ∧ ofShape s = .error (.missingKey s.name))
    ∨ ∃ e, ofShape s = .ok e ∧ e.name = s.name ∧ e.table = table ∧ e.audited = s.audited
      ∧ e.fields = after.1
  := by
  rw [noFields] at h
  simp only [ofShape, htable, h, bind, Except.bind]
  split
  · next hkeys =>
      left
      use hkeys
  · right
    exact ⟨_, rfl, rfl, rfl, rfl, rfl⟩

/-- What is wrong with a declaration is what its table, the run over its fields or the search for
its key finds. -/
theorem fault_iff :
  s.Fault err
    ↔ Ident.qualified s.table = .error err
      ∨ ∃ table, Ident.qualified s.table = .ok table
        ∧ (accept s.name noFields s.fields = .error err
          ∨ ∃ after, accept s.name noFields s.fields = .ok after
            ∧ after.1.filter (·.isKey) = [] ∧ err = .missingKey s.name)
  := by
  constructor
  · intro h
    cases h with
    | table h =>
        left
        apply Ident.qualified_eq_error_iff.mpr ⟨_, h, rfl⟩
    | field htable h hfit hfault =>
        right
        obtain ⟨table, htable⟩ := Ident.exists_qualified_iff.mpr htable
        use table, htable
        left
        apply accept_noFields_eq_error_iff.mpr ⟨_, _, _, h, hfit, hfault⟩
    | missingKey htable hfit h =>
        right
        obtain ⟨table, htable⟩ := Ident.exists_qualified_iff.mpr htable
        use table, htable
        right
        cases haccept : accept s.name noFields s.fields with
        | error err =>
            obtain ⟨before, shape, after, hsplit, -, hfault⟩ :=
              accept_noFields_eq_error_iff.mp haccept
            rw [hsplit] at hfit
            apply absurd hfault (hfit.not_fault _ _)
        | ok after =>
            use after, rfl
            rw [filter_eq_nil_iff_of_forall₂ (maps_of_accept .nil fit_nil haccept).1
              fun _ _ hf => hf.isKey]
            use h
  · rintro (h | ⟨table, htable, haccept | ⟨after, haccept, hkeys, rfl⟩⟩)
    · obtain ⟨fault, hfault, rfl⟩ := Ident.qualified_eq_error_iff.mp h
      apply EntityShape.Fault.table hfault
    · obtain ⟨before, shape, after, hsplit, hfit, hfault⟩ :=
        accept_noFields_eq_error_iff.mp haccept
      apply EntityShape.Fault.field _ hsplit hfit hfault
      apply Ident.exists_qualified_iff.mp ⟨table, htable⟩
    · obtain ⟨hmaps, hfit⟩ := maps_of_accept .nil fit_nil haccept
      apply EntityShape.Fault.missingKey (Ident.exists_qualified_iff.mp ⟨table, htable⟩) hfit
      apply (filter_eq_nil_iff_of_forall₂ hmaps fun _ _ hf => hf.isKey).mp hkeys

/-- A declaration is refused for what is wrong with it. -/
theorem ofShape_eq_error_iff :
  ofShape s = .error err ↔ s.Fault err
  := by
  rw [fault_iff]
  cases htable : Ident.qualified s.table with
  | error e => simp [ofShape, htable, bind, Except.bind]
  | ok table =>
      cases haccept : accept s.name noFields s.fields with
      | error e =>
          rw [noFields] at haccept
          simp [ofShape, htable, haccept, bind, Except.bind]
      | ok after =>
          rcases ofShape_of_accept htable haccept with ⟨hkeys, h⟩ | ⟨e, h, -, -, -, hfields⟩
          · rw [h]
            constructor
            · intro herr
              obtain rfl := Except.error.inj herr
              right
              use table, rfl
              right
              use after
            · rintro (herr | ⟨_, _, herr | ⟨_, _, _, rfl⟩⟩)
              · contradiction
              · contradiction
              · rfl
          · rw [h]
            constructor
            · intro herr
              contradiction
            · rintro (herr | ⟨_, _, herr | ⟨_, hafter, hkeys, -⟩⟩)
              · contradiction
              · contradiction
              · obtain rfl := Except.ok.inj hafter
                rw [← hfields, e.keys_eq] at hkeys
                contradiction

theorem exists_maps_of_getElem? {shapes : List FieldShape} {fields : List Field}
    (h : List.Forall₂ Maps shapes fields) {j : Nat} {shape : FieldShape}
    (hshape : shapes[j]? = some shape) :
  ∃ f, fields[j]? = some f ∧ shape.Maps f
  := by
  obtain ⟨hj, rfl⟩ := List.getElem?_eq_some_iff.mp hshape
  have hj' : j < fields.length := h.length_eq ▸ hj
  use fields[j], List.getElem?_eq_getElem hj'
  apply h.get hj hj'

/-- A field is the only one that is marked when it is the only one with the mark. -/
theorem onlyMarked_of_filter (hfields : List.Forall₂ Maps s.fields e.fields) {p : Field → Bool}
    {mark : FieldShape → Bool} (h : ∀ shape f, Maps shape f → p f = mark shape) {f : Field}
    (hfilter : e.fields.filter p = [f]) :
  s.OnlyMarked e mark f
  := by
  obtain ⟨before, after, hsplit, hbefore, hf, hafter⟩ := List.filter_eq_cons_iff.mp hfilter
  rw [List.filter_eq_nil_iff] at hafter
  use before.length
  constructor
  · simp [hsplit]
  · intro j shape hshape
    obtain ⟨g, hg, hmaps⟩ := exists_maps_of_getElem? hfields hshape
    rw [← h shape g hmaps]
    rw [hsplit] at hg
    rcases lt_trichotomy j before.length with hj | rfl | hj
    · rw [List.getElem?_append_left hj] at hg
      simp [hbefore g (List.mem_of_getElem? hg), hj.ne]
    · rw [List.getElem?_append_right le_rfl, Nat.sub_self] at hg
      obtain rfl := Option.some.inj hg
      simp [hf]
    · rw [List.getElem?_append_right hj.le, List.getElem?_cons] at hg
      rw [if_neg (by omega)] at hg
      simp [hafter g (List.mem_of_getElem? hg), hj.ne']

/-- An entity is the one that was declared. -/
theorem describes_of_ofShape (h : ofShape s = .ok e) :
  s.Describes e ∧ s.Acceptable
  := by
  obtain ⟨table, htable, -⟩ := bind_eq_ok.mp h
  cases haccept : accept s.name noFields s.fields with
  | error err =>
      have herr := ofShape_eq_error_iff.mpr (fault_iff.mpr (.inr ⟨table, htable, .inl haccept⟩))
      rw [h] at herr
      contradiction
  | ok after =>
      obtain ⟨hmaps, hfit⟩ := maps_of_accept .nil fit_nil haccept
      rcases ofShape_of_accept htable haccept with
        ⟨-, herr⟩ | ⟨e', hok, hname, htext, haudited, hfields⟩
      · rw [h] at herr
        contradiction
      · rw [h] at hok
        obtain rfl := Except.ok.inj hok
        rw [List.nil_append, ← hfields] at hmaps
        have hkey : s.OnlyMarked e (·.isKey) e.key :=
          onlyMarked_of_filter hmaps (fun _ _ hf => hf.isKey) e.keys_eq
        constructor
        · refine ⟨hname, ?_, haudited, hmaps, hkey, ?_, ?_⟩
          · rw [htext]
            apply Ident.text_of_qualified htable
          · intro f hf
            apply onlyMarked_of_filter hmaps (fun _ _ hg => hg.isToken)
            rw [e.tokens_eq, hf]
            rfl
          · intro hnone
            rw [← filter_eq_nil_iff_of_forall₂ hmaps fun _ _ hg => hg.isToken, e.tokens_eq, hnone]
            rfl
        · refine ⟨Ident.exists_qualified_iff.mp ⟨table, htable⟩, hfit.columns, hfit.distinct, ?_,
            hfit.oneToken⟩
          have hsome : s.fields.countP (·.isKey) ≠ 0 := by
            intro hzero
            have hnone : ∀ shape ∈ s.fields, shape.isKey = false := by
              simpa [List.countP_eq_zero] using hzero
            rw [← filter_eq_nil_iff_of_forall₂ hmaps fun _ _ hf => hf.isKey, e.keys_eq] at hnone
            contradiction
          have hone := hfit.oneKey
          rw [List.nil_append] at hone
          omega

theorem not_fault_of_acceptable (h : s.Acceptable) (err : Error) :
  ¬ s.Fault err
  := by
  have hfit : Fit s.fields := ⟨h.columns, h.distinct, h.oneKey.le, h.oneToken⟩
  intro hfault
  cases hfault with
  | table hname =>
      obtain ⟨table, htable⟩ := Ident.exists_qualified_iff.mpr h.table
      rw [Ident.qualified_eq_error_iff.mpr ⟨_, hname, rfl⟩] at htable
      contradiction
  | field _ hsplit _ hshape =>
      rw [hsplit] at hfit
      apply hfit.not_fault _ _ hshape
  | missingKey _ _ hnone =>
      have hzero : s.fields.countP (·.isKey) = 0 := by simpa [List.countP_eq_zero] using hnone
      rw [h.oneKey] at hzero
      contradiction

/-- A declaration is accepted exactly when it is acceptable, its entity is the one that it declares,
a name addresses a field of the entity if it has a position there, and any other declaration is
refused for what is wrong with it. -/
theorem ofShape_declared (s : EntityShape) :
  ((∃ e, ofShape s = .ok e) ↔ s.Acceptable)
    ∧ (∀ e, ofShape s = .ok e → s.Describes e
      ∧ ∀ name i, e.position? name = some i →
        ∃ f, e.fields[i]? = some f ∧ e.field? name = some f)
    ∧ ∀ err, ofShape s = .error err ↔ s.Fault err
  := by
  refine ⟨?_, ?_, fun err => ofShape_eq_error_iff⟩
  · constructor
    · rintro ⟨e, h⟩
      apply (describes_of_ofShape h).2
    · intro h
      cases hshape : ofShape s with
      | error err => apply absurd (ofShape_eq_error_iff.mp hshape) (not_fault_of_acceptable h err)
      | ok e => use e
  · intro e h
    use (describes_of_ofShape h).1
    intro name i
    apply exists_of_position?

/-- A lot is declared with its key and its token, and its label is found in capitals. -/
theorem ofShape_declared_editedLot :
  editedLotShape.Acceptable ∧ ofShape editedLotShape = .ok editedLot
    ∧ editedLotShape.Describes editedLot
    ∧ editedLot.position? "LABEL" = some 1
    ∧ ∃ f, editedLot.fields[1]? = some f ∧ editedLot.field? "LABEL" = some f
  := by
  have hshape : ofShape editedLotShape = .ok editedLot := by rfl
  have hposition : editedLot.position? "LABEL" = some 1 := by decide +kernel
  obtain ⟨haccepted, hdeclared, -⟩ := ofShape_declared editedLotShape
  obtain ⟨hdescribes, hfield⟩ := hdeclared editedLot hshape
  use haccepted.mp ⟨editedLot, hshape⟩, hshape, hdescribes, hposition
  apply hfield "LABEL" 1 hposition

end Entity

end BoundSql
