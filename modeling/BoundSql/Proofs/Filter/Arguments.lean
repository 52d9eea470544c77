import BoundSql.Proofs.Clause.Text
import BoundSql.Proofs.Filter.Survival
import BoundSql.Proofs.Filter.Total
import BoundSql.Proofs.ParameterBag

/-!
# Arguments of calls

A call binds a value for each input of its function, in order of declaration and in
front of all other values, and null where no argument is given. So the placeholders
in its parentheses count the inputs whatever arguments there are. The first argument
that is no value of its input's type refuses the call before any condition does.
Arguments may come in any order, and their names in any spelling.
-/

namespace BoundSql

open BoundSql.Text Fragment

namespace FunctionCall

open ParameterBag FilterRequest

/-! ### Values of inputs -/

/-- A JSON value that counts as not given for a type: a null, or blanks for a type that has no blank
values. -/
def CountsAsNone (ty : ColumnType) (j : Json) : Prop :=
  j = .null ∨ ty.acceptsBlank = false ∧ ∃ s, j = .string s ∧ isBlank s = true

theorem isSkipped_iff (ty : ColumnType) (j : Json) :
  isSkipped ty j = true ↔ CountsAsNone ty j
  := by
  cases j with
  | _ => simp [isSkipped, CountsAsNone, Json.isNull, Json.isBlankString, and_comm]

/-- The value that arguments pass for an input: null without an argument for it or when that counts
as not given, and else the argument as a value of the declared type. -/
inductive Passes (args : ParameterBag) (column : ColumnInfo) : Value → Prop where
  | absent (h : ∀ p ∈ args.entries, sameParameter p.1 column.name = false) :
      Passes args column .null
  | omitted {j : Json} (hfinds : args.Finds column.name j) (hnone : CountsAsNone column.type j) :
      Passes args column .null
  | coerced {j : Json} {v : Value} (hfinds : args.Finds column.name j)
      (hgiven : ¬ CountsAsNone column.type j) (hcoerced : Value.coerce column.type j = .ok v) :
      Passes args column v

/-- An argument is given for an input that is no value of its declared type. -/
def Rejects (args : ParameterBag) (column : ColumnInfo) (r : Refusal) : Prop :=
  ∃ j, args.Finds column.name j ∧ ¬ CountsAsNone column.type j
    ∧ Value.coerce column.type j = .error r

/-- Of all inputs the first for which the argument is rejected. -/
def FirstRejected (args : ParameterBag) (columns : List ColumnInfo) (column : ColumnInfo)
    (r : Refusal) : Prop :=
  ∃ before after, columns = before ++ column :: after
    ∧ (∀ b ∈ before, ∀ r, ¬ Rejects args b r) ∧ Rejects args column r

section

variable {args : ParameterBag}

theorem not_rejects_of_input_eq_ok {column : ColumnInfo} {v : Value}
    (h : input args column = .ok v) (r : Refusal) :
  ¬ Rejects args column r
  := by
  rintro ⟨j, hfinds, hgiven, hrefused⟩
  rw [← isSkipped_iff] at hgiven
  simp only [input, get?_eq_some_iff.mpr hfinds, if_neg hgiven, hrefused] at h
  contradiction

/-- An input has the value that arguments pass for it, or they are rejected there. -/
theorem input_cases (args : ParameterBag) (column : ColumnInfo) :
  (∃ r, Rejects args column r ∧ input args column = .error (.invalidValue column.name r))
    ∨ ∃ v, Passes args column v ∧ input args column = .ok v
  := by
  rw [input]
  cases hget : args.get? column.name with
  | none =>
      right
      use .null, Passes.absent (get?_eq_none_iff.mp hget)
  | some j =>
      have hfinds := get?_eq_some_iff.mp hget
      by_cases hskipped : isSkipped column.type j = true
      · right
        use .null, Passes.omitted hfinds ((isSkipped_iff _ j).mp hskipped)
        apply if_pos hskipped
      · have hgiven := mt (isSkipped_iff column.type j).mpr hskipped
        simp only [if_neg hskipped]
        cases hcoerce : Value.coerce column.type j with
        | error r =>
            left
            use r, ⟨j, hfinds, hgiven, hcoerce⟩
            rfl
        | ok v =>
            right
            use v, Passes.coerced hfinds hgiven hcoerce
            rfl

/-- Inputs have the values that arguments pass for them, or they are refused at the first one where
the arguments are rejected. -/
theorem inputs_cases (args : ParameterBag) (columns : List ColumnInfo) :
  (∃ column r, FirstRejected args columns column r
      ∧ inputs args columns = .error (.invalidValue column.name r))
    ∨ (∀ column ∈ columns, ∀ r, ¬ Rejects args column r)
      ∧ ∃ values, List.Forall₂ (Passes args) columns values ∧ inputs args columns = .ok values
  := by
  induction columns with
  | nil =>
      right
      use List.forall_mem_nil _, [], List.Forall₂.nil
      rfl
  | cons column columns ih =>
      rw [inputs]
      rcases input_cases args column with ⟨r, hrejects, hinput⟩ | ⟨v, hpasses, hinput⟩
      · left
        use column, r, ⟨[], columns, rfl, List.forall_mem_nil _, hrejects⟩
        rw [hinput]
        rfl
      · have hnot := not_rejects_of_input_eq_ok hinput
        rcases ih with ⟨first, r, hfirst, hinputs⟩ | ⟨hnone, values, hvalues, hinputs⟩
        · left
          obtain ⟨before, after, rfl, hbefore, hrejects⟩ := hfirst
          use first, r, ⟨column :: before, after, rfl, List.forall_mem_cons.mpr ⟨hnot, hbefore⟩,
            hrejects⟩
          rw [hinput, hinputs]
          rfl
        · right
          use List.forall_mem_cons.mpr ⟨hnot, hnone⟩, v :: values, List.Forall₂.cons hpasses hvalues
          rw [hinput, hinputs]
          rfl

/-- The values that inputs have are those that arguments pass for them. -/
theorem passes_of_inputs {columns : List ColumnInfo} {values : List Value}
    (h : inputs args columns = .ok values) :
  List.Forall₂ (Passes args) columns values
  := by
  rcases inputs_cases args columns with ⟨column, r, -, hinputs⟩ | ⟨-, passed, hpassed, hinputs⟩
  · rw [h] at hinputs
    contradiction
  · rw [h] at hinputs
    rw [Except.ok.inj hinputs]
    apply hpassed

theorem inputs_congr {args' : ParameterBag} (h : ∀ name, args.get? name = args'.get? name)
    (columns : List ColumnInfo) :
  inputs args columns = inputs args' columns
  := by
  induction columns with
  | nil => rfl
  | cons column columns ih => rw [inputs, inputs, ih, input, input, h]

end

/-! ### The text of a call -/

/-- A call as it is written with as many placeholders as there are inputs. -/
def callText (name : Ident) (m : Nat) : List Char :=
  name.text.toList ++ "(".toList ++ ", ".toList.intercalate ((List.range' 1 m).map placeholder)
    ++ ")".toList

theorem sql_callFragment (name : Ident) (values : List Value) :
  (callFragment name values).sql.toList = callText name values.length
  := by
  rw [toList_sql, callFragment, callText]
  simp only [symbols_append, symbols_text, symbols_ident, symbols_bounds, List.append_assoc,
    Symbol.write_text]
  rw [Symbol.write_append, write_slots, Symbol.write_map_char]

theorem params_callFragment (name : Ident) (values : List Value) :
  (callFragment name values).params = values
  := by
  simp [callFragment, params_text, params_ident, params_bounds]

/-- Rows of a source are written with the text of the source, and the clauses behind it. -/
theorem sql_rowsOf_append (head : String) (source : Fragment) (clauses : List Clause) :
  (rowsOf head source clauses).sql.toList
    = head.toList ++ source.sql.toList ++ Clause.whereText source.params.length clauses
  := by
  rw [rowsOf, toList_sql, toList_sql]
  simp only [symbols_append, symbols_text, List.append_assoc, Symbol.write_text]
  rw [Symbol.write_append, Clause.write_whereFragment, params_eq_filterMap, Nat.zero_add]

/-- A statement lists the rows of a call: it has a placeholder for each input, and behind them the
clauses and the ending, with their values behind those of the inputs. -/
structure ListsRows (c : FunctionCall) (values : List Value) (clauses : List Clause)
    (s : Statement) : Prop where
  text : s.sql.toList = "SELECT * FROM ".toList
    ++ callText c.signature.name c.signature.inputs.length
    ++ Clause.whereText c.signature.inputs.length clauses
    ++ (endingText (orderTerms c.orderScope c.request.order) c.request.page?
      (c.signature.inputs.length + (clauses.flatMap Clause.values).length)).toList
  params : s.params = values ++ clauses.flatMap Clause.values ++ pageValues c.request.page?

theorem listsRows_listing (c : FunctionCall) {values : List Value}
    (h : values.length = c.signature.inputs.length) (clauses : List Clause) :
  c.ListsRows values clauses
    (listing (callFragment c.signature.name values) clauses
      (orderTerms c.orderScope c.request.order) c.request.page?).build
  := by
  have hparams : (rowsOf "SELECT * FROM " (callFragment c.signature.name values) clauses).params
      = values ++ clauses.flatMap Clause.values := by
    rw [params_rowsOf, params_callFragment, Clause.params_whereFragment]
  constructor
  · rw [build, listing, sql_append_cut, String.toList_append, hparams, List.length_append,
      sql_rowsOf_append, sql_callFragment, params_callFragment, h]
  · rw [build, listing, params_append, hparams, params_cut]

/-- Whatever rows a call lists, it passes its arguments for the inputs. -/
theorem listsRows_of_select {c : FunctionCall} {s : Statement} (h : c.select = .ok s) :
  ∃ values clauses, List.Forall₂ (Passes c.args) c.signature.inputs values
    ∧ c.ListsRows values clauses s
  := by
  obtain ⟨values, clauses, hvalues, -, rfl⟩ := listing_of_select h
  use values, clauses, passes_of_inputs hvalues
  apply listsRows_listing c (length_of_inputs hvalues)

/-! ### Rows of a call -/

/-- The call with other arguments. -/
def withArgs (c : FunctionCall) (args : ParameterBag) : FunctionCall :=
  { c with args }

theorem select_congr (c : FunctionCall) {args args' : ParameterBag}
    (h : ∀ name, args.get? name = args'.get? name) :
  (c.withArgs args).select = (c.withArgs args').select
  := by
  have hparts : (c.withArgs args).parts = (c.withArgs args').parts := by
    simp only [parts, withArgs, inputs_congr h]
  rw [select_eq_map, select_eq_map, hparts]
  rfl

/-- A call is refused at the first input for which the argument is rejected, else at the first
condition that is refused; else it lists its rows with the values that the arguments pass for the
inputs. Arguments for different parameters give the same rows in any order and spelling. -/
theorem select_passes (c : FunctionCall) :
  ((∃ column r, FirstRejected c.args c.signature.inputs column r
      ∧ c.select = .error (.invalidValue column.name r))
    ∨ (∀ column ∈ c.signature.inputs, ∀ r, ¬ Rejects c.args column r)
      ∧ ∃ values, List.Forall₂ (Passes c.args) c.signature.inputs values
        ∧ ((∃ column r,
            Condition.FirstRefused (.layout c.signature.outputs) c.request.conditions column r
              ∧ c.select = .error (.invalidValue column.text r))
          ∨ (∀ condition ∈ c.request.conditions, ∀ column r,
              ¬ condition.RefusedIn (.layout c.signature.outputs) column r)
            ∧ ∃ s clauses, c.select = .ok s ∧ c.ListsRows values clauses s
              ∧ List.Forall₂ (Condition.ReadsIn (.layout c.signature.outputs))
                (c.request.conditions.filter (Condition.survives (.layout c.signature.outputs)))
                clauses))
    ∧ (∀ a b : ParameterBag, Apart a.entries → Respells a.entries b.entries →
      (c.withArgs a).select = (c.withArgs b).select)
    ∧ ∀ pairs pairs', Apart pairs → Respells pairs pairs' →
      (c.withArgs (ofPairs pairs)).select = (c.withArgs (ofPairs pairs')).select
  := by
  refine ⟨?_, ?_, ?_⟩
  · rw [select_eq_map, parts]
    rcases inputs_cases c.args c.signature.inputs with
      ⟨column, r, hfirst, hinputs⟩ | ⟨hnone, values, hvalues, hinputs⟩
    · left
      use column, r, hfirst
      rw [hinputs]
      rfl
    · right
      use hnone, values, hvalues
      have hcompile := Condition.compileIn_clauses (.layout c.signature.outputs)
        c.request.conditions
      rw [hinputs]
      generalize Condition.clauses (.layout c.signature.outputs) c.request.conditions = result
        at hcompile
      cases hcompile with
      | @refused column r hfirst =>
          left
          use column, r, hfirst
          rfl
      | @reads clauses hrefused hreads =>
          right
          refine ⟨hrefused, _, clauses, rfl, ?_, hreads⟩
          apply listsRows_listing c hvalues.length_eq.symm clauses
  · intro a b hapart h
    apply select_congr c (get?_eq_of_respells a.holds_entries b.holds_entries hapart h)
  · intro pairs pairs' hapart h
    apply select_congr c
      (get?_eq_of_respells (holds_ofPairs pairs) (holds_ofPairs pairs') hapart h)

/-- A quantity above 100. -/
def aboveHundred : Condition where
  column := "qty"
  operator := .compare .greater
  value := some (.string "100")

/-- The large orders of a line, by a function of three inputs. -/
def largeOrders : FunctionCall where
  signature := {
    name := ⟨"orders", by decide⟩
    inputs := [⟨"line", "varchar"⟩, ⟨"since", "date"⟩, ⟨"size", "integer"⟩]
    outputs := ⟨[⟨"label", "varchar"⟩, ⟨"qty", "integer"⟩]⟩ }
  args := ParameterBag.empty
  request := { conditions := [aboveHundred] }
  orderAllowed := none

/-- A blank size and a date that is not given are null, and the bound of the condition stands behind
all three inputs. Marked names in upper case and in another order make no difference. -/
theorem select_passes_largeOrders :
  (largeOrders.withArgs (ofPairs [("line", .string "L1"), ("size", .string " ")])).select
      = .ok ⟨"SELECT * FROM orders($1, $2, $3) WHERE qty > $4",
        [.text "L1", .null, .null, .int 100]⟩
    ∧ (largeOrders.withArgs (ofPairs [("@SIZE", .string " "), ("Line", .string "L1")])).select
      = .ok ⟨"SELECT * FROM orders($1, $2, $3) WHERE qty > $4",
        [.text "L1", .null, .null, .int 100]⟩
  := by
  have hselect : (largeOrders.withArgs
      (ofPairs [("line", .string "L1"), ("size", .string " ")])).select
      = .ok ⟨"SELECT * FROM orders($1, $2, $3) WHERE qty > $4",
        [.text "L1", .null, .null, .int 100]⟩ := by rfl
  have hapart : Apart [("line", .string "L1"), ("size", .string " ")] := by
    rw [Apart]
    decide +kernel
  have hrespells : Respells [("line", .string "L1"), ("size", .string " ")]
      [("@SIZE", .string " "), ("Line", .string "L1")] := by
    have hline : sameParameter "line" "Line" = true := by decide +kernel
    have hsize : sameParameter "size" "@SIZE" = true := by decide +kernel
    constructor
    · simp [hline, hsize]
    · simp [hline, hsize]
  obtain ⟨-, -, hrespelled⟩ := select_passes largeOrders
  use hselect
  rw [← hrespelled _ _ hapart hrespells]
  apply hselect

end FunctionCall

end BoundSql
