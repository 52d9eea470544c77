import BoundSql.Proofs.Filter.Arguments
import BoundSql.Proofs.Session.FirstRow
import BoundSql.Session.Catalog
import Mathlib.Data.List.ReduceOption

/-!
# Signatures of functions

The catalogue lists the parameters of all overloads of a function, the rows of one
overload next to each other. The signature of the function is that of the first
overload: its inputs and its outputs in the order of the rows, an input without a name
going by its number among the inputs. Of a later overload only the name is looked at.
So a call has a placeholder for each parameter of the first overload that goes in.
-/

namespace BoundSql.Catalog

open BoundSql.Text

/-! ### What a row describes -/

/-- The overload that a row is about. -/
def overload (r : Row) : Except Error String :=
  r.text "specific_name"

/-- A parameter of a function as the catalogue describes it. -/
structure Parameter where
  mode : String
  name : Option String
  type : String

namespace Parameter

/-- Whether a parameter is an input, by its mode without regard to letter case. -/
def goesIn (p : Parameter) : Bool :=
  sameName p.mode "IN" || sameName p.mode "INOUT"

/-- Whether a parameter is an output. -/
def comesOut (p : Parameter) : Bool :=
  sameName p.mode "INOUT" || sameName p.mode "OUT" || sameName p.mode "TABLE"

/-- The column of a parameter; without a name of its own it goes by a number. -/
def column (p : Parameter) (number : Nat) : ColumnInfo :=
  ⟨p.name.getD ("$" ++ decimalText number), p.type⟩

/-- The columns of some parameters, numbered onwards from `n` by the inputs among all of them. -/
def columnsFrom (keeps : Parameter → Bool) : Nat → List Parameter → List ColumnInfo
  | _, [] => []
  | n, p :: r =>
    let rest := columnsFrom keeps (if p.goesIn then n + 1 else n) r
    if keeps p then p.column n :: rest else rest

/-- Of the inputs each goes by its own number. -/
theorem columnsFrom_goesIn (n : Nat) (ps : List Parameter) :
  columnsFrom goesIn n ps = ((ps.filter goesIn).zipIdx n).map fun (p, i) => p.column i
  := by
  induction ps generalizing n with
  | nil => rfl
  | cons p ps ih =>
      rw [columnsFrom]
      cases hin : p.goesIn with
      | true =>
          rw [List.filter_cons_of_pos hin, if_pos rfl, if_pos rfl, ih, List.zipIdx_cons,
            List.map_cons]
      | false =>
          rw [List.filter_cons_of_neg (by simp [hin]), if_neg Bool.false_ne_true,
            if_neg Bool.false_ne_true, ih]

/-- A column has the type of a parameter, and its name if it has one. -/
def Names (p : Parameter) (c : ColumnInfo) : Prop :=
  c.declaredType = p.type ∧ ∀ name ∈ p.name, c.name = name

theorem names_column (p : Parameter) (n : Nat) :
  p.Names (p.column n)
  := by
  use rfl
  intro name hname
  rw [column, Option.mem_def.mp hname]
  rfl

theorem names_columnsFrom (keeps : Parameter → Bool) (n : Nat) (ps : List Parameter) :
  List.Forall₂ Names (ps.filter keeps) (columnsFrom keeps n ps)
  := by
  induction ps generalizing n with
  | nil => apply List.Forall₂.nil
  | cons p ps ih =>
      rw [columnsFrom, List.filter_cons]
      split
      · apply List.Forall₂.cons (p.names_column n) (ih _)
      · apply ih

end Parameter

/-- A row describes a parameter, or none when it has no mode. -/
def Describes (r : Row) : Option Parameter → Prop
  | none => r.textOrNull "parameter_mode" = .ok none
  | some p => r.textOrNull "parameter_mode" = .ok (some p.mode) ∧ r.text "data_type" = .ok p.type
    ∧ r.textOrNull "parameter_name" = .ok p.name

/-! ### One row -/

/-- Parameters with the one added that a row describes. -/
def addRow (p : Parameters) (r : Row) : Except Error Parameters := do
  match ← r.textOrNull "parameter_mode" with
  | none => pure p
  | some mode =>
    let declaredType ← r.text "data_type"
    let number := String.ofList ('$' :: digits (p.inputs.length + 1))
    let name := (← r.textOrNull "parameter_name").getD number
    pure (p.add mode ⟨name, declaredType⟩)

variable {specific : String} {r : Row} {rows own later : List Row} {p : Parameters}

/-- A row of the overload adds its parameter. -/
theorem addOverload_cons (h : overload r = .ok specific) (p : Parameters) (rows : List Row) :
  addOverload specific p (r :: rows) = (addRow p r).bind fun q => addOverload specific q rows
  := by
  rw [overload] at h
  rw [addOverload, addRow, h]
  cases r.textOrNull "parameter_mode" with
  | error e => simp [bind, Except.bind]
  | ok mode =>
      cases mode with
      | none => simp [bind, Except.bind, pure, Except.pure]
      | some mode =>
          cases r.text "data_type" with
          | error e => simp [bind, Except.bind]
          | ok declaredType =>
              cases r.textOrNull "parameter_name" with
              | error e => simp [bind, Except.bind]
              | ok name => simp [bind, Except.bind, pure, Except.pure]


theorem addRow_of_describes {q : Option Parameter} (h : Describes r q) (p : Parameters) :
  addRow p r = .ok (q.elim p fun q => p.add q.mode (q.column (p.inputs.length + 1)))
  := by
  cases q with
  | none =>
      rw [Describes] at h
      rw [addRow, h]
      rfl
  | some q =>
      obtain ⟨hmode, htype, hname⟩ := h
      have hnumber : String.ofList ('$' :: digits (p.inputs.length + 1))
          = "$" ++ decimalText (p.inputs.length + 1) := by
        simp [decimalText]
      rw [addRow, hmode, htype, hname, hnumber]
      rfl

/-- A parameter goes to the inputs and to the outputs by its mode. -/
theorem add_mode (p : Parameters) (q : Parameter) (c : ColumnInfo) :
  p.add q.mode c
    = ⟨if q.goesIn then p.inputs ++ [c] else p.inputs,
      if q.comesOut then p.outputs ++ [c] else p.outputs⟩
  := by
  have hin : upper "IN" = "IN" := by decide
  have hinout : upper "INOUT" = "INOUT" := by decide
  have hout : upper "OUT" = "OUT" := by decide
  have htable : upper "TABLE" = "TABLE" := by decide
  rw [Parameters.add, upper_beq _ hin, upper_beq _ hinout, upper_beq _ hout, upper_beq _ htable]
  rfl

/-! ### The rows of an overload -/

/-- The rows of an overload add the parameters that they describe. -/
theorem addOverload_of_describes {ps : List (Option Parameter)}
    (hown : ∀ r ∈ own, overload r = .ok specific) (h : List.Forall₂ Describes own ps)
    (p : Parameters) :
  addOverload specific p own
    = .ok ⟨p.inputs ++ Parameter.columnsFrom Parameter.goesIn (p.inputs.length + 1) ps.reduceOption,
      p.outputs ++ Parameter.columnsFrom Parameter.comesOut (p.inputs.length + 1) ps.reduceOption⟩
  := by
  induction h generalizing p with
  | nil => simp [addOverload, Parameter.columnsFrom]
  | @cons r q own ps hdescribes _ ih =>
      obtain ⟨hr, hown⟩ := List.forall_mem_cons.mp hown
      rw [addOverload_cons hr, addRow_of_describes hdescribes, Except.bind, ih hown]
      cases q with
      | none => rw [List.reduceOption_cons_of_none, Option.elim_none]
      | some q =>
          rw [List.reduceOption_cons_of_some, Option.elim_some, add_mode, Parameter.columnsFrom,
            Parameter.columnsFrom]
          cases q.goesIn with
          | true =>
              cases q.comesOut with
              | true => simp
              | false => simp
          | false =>
              cases q.comesOut with
              | true => simp
              | false => simp

/-- Behind the rows of an overload only the name of the next one is looked at. -/
theorem addOverload_append (hown : ∀ r ∈ own, overload r = .ok specific)
    (hlater : ∀ next ∈ later.head?, overload next ≠ .ok specific) (p : Parameters) :
  addOverload specific p (own ++ later)
    = (addOverload specific p own).bind fun q => (later.head?.mapM overload).map fun _ => q
  := by
  induction own generalizing p with
  | nil =>
      cases later with
      | nil => rfl
      | cons next later =>
          have hother := hlater next rfl
          rw [List.nil_append, addOverload, List.head?_cons]
          rw [overload] at hother
          cases hname : next.text "specific_name" with
          | error e => simp [overload, hname, bind, Except.bind, Except.map, addOverload]
          | ok other =>
              rw [hname] at hother
              have hne : other ≠ specific := by
                rintro rfl
                contradiction
              simp [overload, hname, hne, bind, Except.bind, Except.map, addOverload, pure,
                Except.pure]
  | cons r own ih =>
      obtain ⟨hr, hown⟩ := List.forall_mem_cons.mp hown
      rw [List.cons_append, addOverload_cons hr, addOverload_cons hr]
      cases addRow p r with
      | error e => rfl
      | ok q => apply ih hown

/-- Of later overloads only the name of the first one is looked at. -/
theorem signature_append (function : Ident) (hown : ∀ r ∈ own, overload r = .ok specific)
    (hne : own ≠ []) (hlater : ∀ next ∈ later.head?, overload next ≠ .ok specific) :
  signature function (own ++ later)
    = (signature function own).bind fun s => (later.head?.mapM overload).map fun _ => s
  := by
  obtain ⟨first, own, rfl⟩ := List.exists_cons_of_ne_nil hne
  have hfirst := hown first List.mem_cons_self
  have happend := addOverload_append hown hlater {}
  rw [overload] at hfirst
  rw [List.cons_append] at happend ⊢
  rw [signature, signature, hfirst]
  change (addOverload specific {} (first :: (own ++ later))).bind _
    = ((addOverload specific {} (first :: own)).bind _).bind _
  rw [happend]
  cases addOverload specific {} (first :: own) with
  | error e => rfl
  | ok q =>
      cases later.head?.mapM overload with
      | error e => rfl
      | ok names => rfl

/-! ### Errors -/

theorem exists_decode_of_addRow {e : Error} (h : addRow p r = .error e) :
  ∃ column fault, e = .decode column fault
  := by
  rw [addRow] at h
  rcases bind_eq_error.mp h with hmode | ⟨mode, -, h⟩
  · exact ⟨_, Row.exists_decode_of_readBy hmode⟩
  · cases mode with
    | none => contradiction
    | some mode =>
        rcases bind_eq_error.mp h with htype | ⟨declaredType, -, h⟩
        · exact ⟨_, Row.exists_decode_of_readBy htype⟩
        · rcases bind_eq_error.mp h with hname | ⟨name, -, h⟩
          · exact ⟨_, Row.exists_decode_of_readBy hname⟩
          · contradiction

theorem exists_decode_of_addOverload {e : Error} (h : addOverload specific p rows = .error e) :
  ∃ column fault, e = .decode column fault
  := by
  induction rows generalizing p with
  | nil => contradiction
  | cons r rows ih =>
      by_cases hname : overload r = .ok specific
      · rw [addOverload_cons hname] at h
        rcases bind_eq_error.mp h with hrow | ⟨q, -, h⟩
        · apply exists_decode_of_addRow hrow
        · apply ih h
      · rw [addOverload] at h
        rcases bind_eq_error.mp h with hread | ⟨other, hother, h⟩
        · exact ⟨_, Row.exists_decode_of_readBy hread⟩
        · have hne : other ≠ specific := by
            rintro rfl
            apply hname hother
          rw [if_pos hne] at h
          contradiction

/-- Rows of the catalogue that cannot be read are errors of their own. -/
theorem signature_eq_notFound_iff (function : Ident) (rows : List Row) :
  (∃ what, signature function rows = .error (.notFound what)) ↔ rows = []
  := by
  constructor
  · rintro ⟨what, h⟩
    cases rows with
    | nil => rfl
    | cons first rows =>
        rw [signature] at h
        rcases bind_eq_error.mp h with hread | ⟨specific, -, h⟩
        · obtain ⟨fault, hfault⟩ := Row.exists_decode_of_readBy hread
          contradiction
        · rcases bind_eq_error.mp h with hadd | ⟨p, -, h⟩
          · obtain ⟨column, fault, hfault⟩ := exists_decode_of_addOverload hadd
            contradiction
          · contradiction
  · rintro rfl
    use .function function.text
    rfl

/-! ### The first overload -/

/-- Whether a row is about an overload. -/
def isOf (specific : String) (r : Row) : Bool :=
  (overload r).toOption == some specific

theorem isOf_iff :
  isOf specific r = true ↔ overload r = .ok specific
  := by
  rw [isOf, beq_iff_eq]
  cases overload r with
  | error e => simp [Except.toOption]
  | ok other => simp [Except.toOption]

/-- Rows stand in the order of their overloads. -/
def Ordered (le : String → String → Prop) (rows : List Row) : Prop :=
  (rows.filterMap fun r => (overload r).toOption).Pairwise le

/-- In ordered rows all rows of the first overload stand in front of those of the next one. -/
theorem takeWhile_eq_filter {le : String → String → Prop}
    (hanti : ∀ name name', le name name' → le name' name → name = name')
    (hordered : Ordered le rows) (hfirst : rows.head?.map overload = some (.ok specific))
    (hnext : ∀ next ∈ (rows.dropWhile (isOf specific)).head?, ∃ other, overload next = .ok other) :
  rows.takeWhile (isOf specific) = rows.filter (isOf specific)
  := by
  have hsplit := List.takeWhile_append_dropWhile (p := isOf specific) (l := rows)
  obtain ⟨first, hhead, hname⟩ := Option.map_eq_some_iff.mp hfirst
  have hfirst' : first ∈ rows.takeWhile (isOf specific) := by
    cases rows with
    | nil => contradiction
    | cons r rows =>
        obtain rfl := Option.some.inj hhead
        rw [List.takeWhile_cons_of_pos (isOf_iff.mpr hname)]
        apply List.mem_cons_self
  have hown : (rows.takeWhile (isOf specific)).filter (isOf specific)
      = rows.takeWhile (isOf specific) := by
    rw [List.filter_eq_self]
    apply List.all_eq_true.mp List.all_takeWhile
  have hlater : (rows.dropWhile (isOf specific)).filter (isOf specific) = [] := by
    cases hrest : rows.dropWhile (isOf specific) with
    | nil => rfl
    | cons next later =>
        rw [hrest] at hnext
        obtain ⟨other, hother⟩ := hnext next rfl
        have hnot : ¬ isOf specific next = true := by
          have hdrop := List.head?_dropWhile_not (isOf specific) rows
          rw [hrest] at hdrop
          simpa using hdrop
        rw [Ordered, List.pairwise_filterMap, ← hsplit, hrest, List.pairwise_append,
          List.pairwise_cons] at hordered
        obtain ⟨-, ⟨hbehind, -⟩, hacross⟩ := hordered
        rw [List.filter_eq_nil_iff, List.forall_mem_cons]
        use hnot
        intro r hr hof
        have hread : ∀ {r name}, overload r = .ok name → (overload r).toOption = some name := by
          intro r name h
          rw [h]
          rfl
        have hfront :=
          hacross first hfirst' next List.mem_cons_self _ (hread hname) _ (hread hother)
        have hback := hbehind r hr _ (hread hother) _ (hread (isOf_iff.mp hof))
        apply hnot
        rw [isOf_iff, hother, hanti _ _ hback hfront]
  conv_rhs => rw [← hsplit, List.filter_append, hown, hlater, List.append_nil]

/-- Behind the first rows of an overload only the name of the next one is looked at. -/
theorem signature_takeWhile (function : Ident)
    (hfirst : rows.head?.map overload = some (.ok specific)) :
  signature function rows
    = (signature function (rows.takeWhile (isOf specific))).bind fun s =>
      ((rows.dropWhile (isOf specific)).head?.mapM overload).map fun _ => s
  := by
  have hown : ∀ r ∈ rows.takeWhile (isOf specific), overload r = .ok specific := by
    intro r hr
    apply isOf_iff.mp (List.all_eq_true.mp List.all_takeWhile r hr)
  have hne : rows.takeWhile (isOf specific) ≠ [] := by
    obtain ⟨first, hhead, hname⟩ := Option.map_eq_some_iff.mp hfirst
    cases rows with
    | nil => contradiction
    | cons r rows =>
        obtain rfl := Option.some.inj hhead
        rw [List.takeWhile_cons_of_pos (isOf_iff.mpr hname)]
        apply List.cons_ne_nil
  have hlater : ∀ next ∈ (rows.dropWhile (isOf specific)).head?, overload next ≠ .ok specific := by
    intro next hnext hname
    have hdrop := List.head?_dropWhile_not (isOf specific) rows
    rw [Option.mem_def.mp hnext] at hdrop
    simp [isOf_iff.mpr hname] at hdrop
  rw [← signature_append function hown hne hlater, List.takeWhile_append_dropWhile]

/-- A signature has the parameters of a function: the inputs in order, each without a name going by
its number, and the outputs in order. -/
structure Gathers (function : Ident) (ps : List Parameter) (s : FunctionSignature) : Prop where
  name : s.name = function
  inputs : s.inputs = ((ps.filter Parameter.goesIn).zipIdx 1).map fun (p, i) => p.column i
  outputs : s.outputs.columns = Parameter.columnsFrom Parameter.comesOut 1 ps
  names : List.Forall₂ Parameter.Names (ps.filter Parameter.comesOut) s.outputs.columns

theorem gathers_of_describes (function : Ident) {ps : List (Option Parameter)}
    (hown : ∀ r ∈ own, overload r = .ok specific) (hne : own ≠ [])
    (h : List.Forall₂ Describes own ps) :
  ∃ s, signature function own = .ok s ∧ Gathers function ps.reduceOption s
  := by
  obtain ⟨first, own, rfl⟩ := List.exists_cons_of_ne_nil hne
  have hfirst := hown first List.mem_cons_self
  rw [overload] at hfirst
  have hadd := addOverload_of_describes hown h {}
  rw [signature, hfirst]
  change ∃ s, (addOverload specific {} (first :: own)).bind _ = .ok s ∧ _
  rw [hadd]
  refine ⟨_, rfl, ?_⟩
  constructor
  · rfl
  · apply Parameter.columnsFrom_goesIn
  · rfl
  · apply Parameter.names_columnsFrom

/-- What is found out about a function on a connection. -/
def discovered (function : Ident) (c : Connection) : Except Error FunctionSignature :=
  ((discoverFunction function).runWith false c).1

/-- A function is found out by its rows in the catalogue. -/
theorem discovered_eq (function : Ident) (c : Connection) :
  discovered function c
    = (Connection.query (functionStatement function) c).1.answer.bind (signature function)
  := by
  rfl

/-- A function is not found exactly when the catalogue has no rows for it. Of the first overload all
rows count, and of the others only the name that the first row behind them has; when what is asked
of them can be read, the signature has the parameters of the first overload. A call has a value and
a placeholder for each of those that go in, in order. -/
theorem discovered_firstOverload {function : Ident} {c : Connection} {rows : List Row}
    {le : String → String → Prop}
    (hanswer : (Connection.query (functionStatement function) c).1.answer = .ok rows)
    (hanti : ∀ name name', le name name' → le name' name → name = name')
    (hordered : Ordered le rows) :
  ((∃ what, discovered function c = .error (.notFound what)) ↔ rows = [])
    ∧ ∀ specific, rows.head?.map overload = some (.ok specific) →
      (discovered function c
          = (signature function (rows.takeWhile (isOf specific))).bind fun s =>
            ((rows.dropWhile (isOf specific)).head?.mapM overload).map fun _ => s)
        ∧ ((∀ next ∈ (rows.dropWhile (isOf specific)).head?, ∃ other, overload next = .ok other) →
          rows.takeWhile (isOf specific) = rows.filter (isOf specific)
            ∧ ∀ ps, List.Forall₂ Describes (rows.filter (isOf specific)) ps →
              ∃ s, discovered function c = .ok s ∧ Gathers function ps.reduceOption s
                ∧ ∀ (call : FunctionCall) (t : Statement), call.signature = s →
                  call.select = .ok t →
                  call.signature.inputs.length = (ps.reduceOption.filter Parameter.goesIn).length
                    ∧ ∃ values clauses,
                      List.Forall₂ (FunctionCall.Passes call.args) call.signature.inputs values
                        ∧ call.ListsRows values clauses t)
  := by
  have hdiscovered : discovered function c = signature function rows := by
    rw [discovered_eq, hanswer]
    rfl
  constructor
  · rw [hdiscovered]
    apply signature_eq_notFound_iff
  · intro specific hfirst
    have hsignature := signature_takeWhile function hfirst
    use hdiscovered.trans hsignature
    intro hnext
    have hfilter := takeWhile_eq_filter hanti hordered hfirst hnext
    use hfilter
    intro ps hps
    have hown : ∀ r ∈ rows.filter (isOf specific), overload r = .ok specific := by
      intro r hr
      apply isOf_iff.mp (List.mem_filter.mp hr).2
    have hne : rows.filter (isOf specific) ≠ [] := by
      obtain ⟨first, hhead, hname⟩ := Option.map_eq_some_iff.mp hfirst
      apply List.ne_nil_of_mem (a := first)
      apply List.mem_filter.mpr ⟨List.mem_of_head? hhead, isOf_iff.mpr hname⟩
    obtain ⟨s, hs, hgathers⟩ := gathers_of_describes function hown hne hps
    have hnames : ((rows.dropWhile (isOf specific)).head?.mapM overload).map (fun _ => s)
        = .ok s := by
      cases hrest : (rows.dropWhile (isOf specific)).head? with
      | none => rfl
      | some next =>
          obtain ⟨other, hother⟩ := hnext next hrest
          simp [hother, Except.map]
    refine ⟨s, ?_, hgathers, ?_⟩
    · rw [hdiscovered, hsignature, hfilter, hs]
      apply hnames
    · rintro call t rfl hselect
      constructor
      · rw [hgathers.inputs, List.length_map, List.length_zipIdx]
      · apply FunctionCall.listsRows_of_select hselect

/-- A text in a row. -/
def written (s : String) : Option (List UInt8) :=
  some (Wire.textBytes s)

/-- The parameters of two overloads of a function; one of the first has no name, and one of the
second has no type. -/
def orderParameters : Reply where
  columns := [("specific_name", .text), ("parameter_name", .text), ("data_type", .text),
    ("parameter_mode", .text)]
  rows := [[written "orders_1", written "line", written "text", written "IN"],
    [written "orders_1", none, written "integer", written "inout"],
    [written "orders_1", written "label", written "text", written "TABLE"],
    [written "orders_2", written "line", none, written "IN"]]

/-- The second parameter goes by its number, and the missing type of another overload does no
harm. -/
theorem discovered_firstOverload_orders :
  ∃ s, discovered ⟨"orders", by decide⟩ { replies := [orderParameters] } = .ok s
    ∧ s.inputs = [⟨"line", "text"⟩, ⟨"$2", "integer"⟩]
    ∧ s.outputs.columns = [⟨"$2", "integer"⟩, ⟨"label", "text"⟩]
  := by
  have hanswer : (Connection.query (functionStatement ⟨"orders", by decide⟩)
      { replies := [orderParameters] }).1.answer = .ok orderParameters.table := by rfl
  have hordered : Ordered (· ≤ ·) orderParameters.table := by
    change List.Pairwise (· ≤ ·) ["orders_1", "orders_1", "orders_1", "orders_2"]
    decide
  have hnext : ∀ next ∈ (orderParameters.table.dropWhile (isOf "orders_1")).head?,
      ∃ other, overload next = .ok other := by
    rintro next ⟨⟩
    use "orders_2"
    rfl
  have hdescribes : List.Forall₂ Describes (orderParameters.table.filter (isOf "orders_1"))
      [some ⟨"IN", some "line", "text"⟩, some ⟨"inout", none, "integer"⟩,
        some ⟨"TABLE", some "label", "text"⟩] := by
    have hrows : orderParameters.table.filter (isOf "orders_1") = orderParameters.table.take 3 := by
      rfl
    rw [hrows]
    exact .cons ⟨rfl, rfl, rfl⟩ (.cons ⟨rfl, rfl, rfl⟩ (.cons ⟨rfl, rfl, rfl⟩ .nil))
  obtain ⟨-, hoverload⟩ :=
    discovered_firstOverload hanswer (fun _ _ => String.le_antisymm) hordered
  obtain ⟨-, hsignature⟩ := hoverload "orders_1" rfl
  obtain ⟨-, hparameters⟩ := hsignature hnext
  obtain ⟨s, hs, hgathers, -⟩ := hparameters _ hdescribes
  use s, hs
  rw [hgathers.inputs, hgathers.outputs]
  apply And.intro rfl rfl

end BoundSql.Catalog
