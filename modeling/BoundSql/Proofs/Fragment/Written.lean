import BoundSql.Proofs.Fragment.Symbol

/-!
# Written symbols

The text of a statement is its symbols written down: characters as they are, and
places as placeholders that are numbered in order. So fragments with the same
symbols build the same statement.
-/

namespace BoundSql

open BoundSql.Text

namespace Symbol

variable {α : Type}

/-- Symbols written down, their places numbered onwards from `n + 1`. -/
def write : Nat → List (Symbol α) → List Char
  | _, [] => []
  | n, .char c :: r => c :: write n r
  | n, .slot _ :: r => Fragment.placeholder (n + 1) ++ write (n + 1) r

theorem write_append (n : Nat) (a b : List (Symbol α)) :
  write n (a ++ b) = write n a ++ write (n + (a.filterMap slot?).length) b
  := by
  induction a generalizing n with
  | nil => simp [write]
  | cons x a ih =>
      cases x with
      | char c => simp [write, slot?, List.filterMap_cons, ih]
      | slot v => simp [write, slot?, ih, Nat.add_assoc, Nat.add_comm 1]

theorem write_map_char (n : Nat) (t : List Char) :
  write n (t.map (char (α := α))) = t
  := by
  induction t with
  | nil => rfl
  | cons c t ih => simp [write, ih]

theorem filterMap_slot?_map_char (t : List Char) :
  (t.map (char (α := α))).filterMap slot? = []
  := by
  simp [List.filterMap_map, slot?]

/-- A text in front of symbols is written as it is. -/
theorem write_text (n : Nat) (t : List Char) (s : List (Symbol α)) :
  write n (t.map .char ++ s) = t ++ write n s
  := by
  rw [write_append, write_map_char, filterMap_slot?_map_char, List.length_nil, Nat.add_zero]

theorem write_slot (n : Nat) (a : α) (s : List (Symbol α)) :
  write n (.slot a :: s) = Fragment.placeholder (n + 1) ++ write (n + 1) s
  := rfl

theorem intercalate_map_char (sep : List Char) (ts : List (List Char)) :
  (sep.map (char (α := α))).intercalate (ts.map (List.map char)) = (sep.intercalate ts).map char
  := by
  induction ts with
  | nil => rfl
  | cons t ts ih =>
      cases ts with
      | nil => simp
      | cons t' ts =>
          rw [List.map_cons, List.map_cons, List.intercalate_cons_cons, ← List.map_cons, ih]
          simp

end Symbol

namespace Fragment

theorem renderFrom_eq_write (n : Nat) (ps : List Piece) :
  renderFrom n ps = Symbol.write n (ps.flatMap Piece.symbols)
  := by
  induction ps generalizing n with
  | nil => rfl
  | cons p ps ih =>
      cases p with
      | text s =>
          rw [renderFrom, List.flatMap_cons, Piece.symbols, Symbol.write_text, ih]
      | bound v => simp [renderFrom, Piece.symbols, Symbol.write, ih]

theorem toList_sql (f : Fragment) :
  f.sql.toList = Symbol.write 0 f.symbols
  := by
  rw [sql, String.toList_ofList, renderFrom_eq_write, symbols]

theorem params_eq_filterMap (f : Fragment) :
  f.params = f.symbols.filterMap Symbol.slot?
  := by
  rw [params, symbols]
  induction f.pieces with
  | nil => rfl
  | cons p ps ih =>
      cases p with
      | text s =>
          rw [List.flatMap_cons, List.filterMap_append, Piece.symbols,
            Symbol.filterMap_slot?_map_char, ← ih]
          rfl
      | bound v => simp [Piece.value?, Piece.symbols, Symbol.slot?, ih]

/-! ### Fragments with separators -/

theorem symbols_intercalate (f : Fragment) (fs : List Fragment) :
  (intercalate f fs).symbols = f.symbols.intercalate (fs.map symbols)
  := by
  induction fs with
  | nil => rfl
  | cons g fs ih =>
      cases fs with
      | nil => simp [intercalate]
      | cons g' fs =>
          rw [intercalate, symbols_append, symbols_append, ih]
          simp

/-- Nothing is left out between fragments none of which is empty. -/
theorem joined_eq_intercalate (s : String) {fs : List Fragment}
    (h : ∀ f ∈ fs, f.isEmpty = false) :
  joined s fs = intercalate (text s) fs
  := by
  have hfilter : fs.filter (!·.isEmpty) = fs := by
    rw [List.filter_eq_self]
    intro f hf
    rw [h f hf]
    rfl
  rw [joined, hfilter]

/-! ### Bound values -/

theorem params_text (s : String) :
  (text s).params = []
  := by
  rw [params_eq_filterMap, symbols_text, Symbol.filterMap_slot?_map_char]

theorem params_ident (i : Ident) :
  (ident i).params = []
  := rfl

theorem params_bound (v : Value) :
  (bound v).params = [v]
  := rfl

theorem params_intercalate (s : String) (fs : List Fragment) :
  (intercalate (text s) fs).params = fs.flatMap params
  := by
  induction fs with
  | nil => rfl
  | cons f fs ih =>
      cases fs with
      | nil => simp [intercalate]
      | cons g fs =>
          rw [intercalate, params_append, params_append, params_text, ih, List.append_nil,
            ← List.flatMap_cons]

theorem symbols_bounds (sep : String) (vs : List Value) :
  (intercalate (text sep) (vs.map bound)).symbols
    = (sep.toList.map .char).intercalate (vs.map fun v => [.slot v])
  := by
  rw [symbols_intercalate, symbols_text, List.map_map]
  rfl

theorem params_bounds (sep : String) (vs : List Value) :
  (intercalate (text sep) (vs.map bound)).params = vs
  := by
  rw [params_intercalate, List.flatMap_map]
  apply List.flatMap_singleton'

theorem symbols_boundList {vs : List Value} (h : vs ≠ []) :
  (boundList vs).symbols
    = (", ".toList.map .char).intercalate (vs.map fun v => [.slot v])
  := by
  obtain ⟨v, vs, rfl⟩ := List.exists_cons_of_ne_nil h
  apply symbols_bounds

/-- Values with a separator between them are written as their placeholders. -/
theorem write_slots (n : Nat) (sep : List Char) (vs : List Value) :
  Symbol.write n ((sep.map .char).intercalate (vs.map fun v => [.slot v]))
    = sep.intercalate ((List.range' (n + 1) vs.length).map placeholder)
  := by
  induction vs generalizing n with
  | nil => rfl
  | cons v vs ih =>
      cases vs with
      | nil => simp [Symbol.write]
      | cons v' vs =>
          have htail := ih (n + 1)
          rw [List.map_cons, List.length_cons] at htail
          rw [List.map_cons, List.map_cons, List.intercalate_cons_cons, List.append_assoc,
            List.singleton_append, Symbol.write_slot, Symbol.write_text, htail, List.length_cons,
            List.length_cons, List.range'_succ, List.map_cons, List.range'_succ, List.map_cons,
            List.range'_succ, List.map_cons, List.intercalate_cons_cons, List.append_assoc]

theorem params_boundList (vs : List Value) :
  (boundList vs).params = vs
  := by
  cases vs with
  | nil => apply params_text
  | cons v vs => apply params_bounds

end Fragment

end BoundSql
