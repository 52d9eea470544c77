import BoundSql.Proofs.Clause.Wording

/-!
# Reading clauses

A clause is read from symbols: the name of its column, the sign of what it asks,
and the values in their places. Every clause is read back from its fragment,
whatever follows it, and so is every list of clauses with AND between them.
-/

namespace BoundSql

open Fragment

namespace Symbol

variable {α : Type}

/-- What follows a text. -/
def takeText? : List Char → List (Symbol α) → Option (List (Symbol α))
  | [], s => some s
  | c :: t, .char d :: s => if c = d then takeText? t s else none
  | _ :: _, _ => none

/-- The longest run of name characters and what follows it. -/
def takeName : List (Symbol α) → List Char × List (Symbol α)
  | .char c :: s =>
    if Ident.isNameChar c then (c :: (takeName s).1, (takeName s).2) else ([], .char c :: s)
  | s => ([], s)

/-- The identifier of a name. -/
def ident? (name : List Char) : Option Ident :=
  if h : Ident.isQualified (String.ofList name).toList = true then some ⟨String.ofList name, h⟩
  else none

/-- What stands in the place at the head and what follows it. -/
def takeSlot? : List (Symbol α) → Option (α × List (Symbol α))
  | .slot a :: s => some (a, s)
  | _ => none

/-- What stands in the places behind commas and what follows them. -/
def takeSlots : List (Symbol α) → List α × List (Symbol α)
  | .char ',' :: .char ' ' :: .slot a :: s => (a :: (takeSlots s).1, (takeSlots s).2)
  | s => ([], s)

/-- The values of a list and what follows it. -/
def takeList? : List (Symbol α) → Option (List α × List (Symbol α))
  | .slot a :: s => some (a :: (takeSlots s).1, (takeSlots s).2)
  | s => (takeText? "NULL".toList s).map ([], ·)

theorem takeText?_append (t : List Char) (s : List (Symbol α)) :
  takeText? t (t.map .char ++ s) = some s
  := by
  induction t with
  | nil => rfl
  | cons c t ih =>
      rw [List.map_cons, List.cons_append, takeText?, if_pos rfl]
      apply ih

/-- A name ends where a symbol follows that is no character of a name. -/
theorem takeName_append {name : List Char} (hname : ∀ c ∈ name, Ident.isNameChar c = true)
    {s : List (Symbol α)} (hs : ∀ c r, s = .char c :: r → Ident.isNameChar c = false) :
  takeName (name.map .char ++ s) = (name, s)
  := by
  induction name with
  | nil =>
      cases s with
      | nil => rfl
      | cons a r =>
          cases a with
          | slot a => rfl
          | char c => simp [takeName, hs c r rfl]
  | cons c name ih =>
      rw [List.forall_mem_cons] at hname
      rw [List.map_cons, List.cons_append, takeName, if_pos hname.1, ih hname.2]

theorem takeName_ident (i : Ident) {s : List (Symbol α)}
    (hs : ∀ c r, s = .char c :: r → Ident.isNameChar c = false) :
  takeName (i.text.toList.map .char ++ s) = (i.text.toList, s)
  := takeName_append i.nameChars hs

theorem ident?_toList (i : Ident) :
  ident? i.text.toList = some i
  := by
  simp [ident?, i.valid]

end Symbol

namespace Fragment

theorem takeSlots_append (vs : List Value) (s : List (Symbol Value))
    (hs : Symbol.takeSlots s = ([], s)) :
  Symbol.takeSlots ((vs.flatMap fun v => (text ", " ++ bound v).symbols) ++ s) = (vs, s)
  := by
  induction vs with
  | nil => apply hs
  | cons v vs ih =>
      rw [List.flatMap_cons, List.append_assoc, symbols_append, symbols_text]
      show (v :: (Symbol.takeSlots ((vs.flatMap fun v => (text ", " ++ bound v).symbols) ++ s)).1,
        (Symbol.takeSlots ((vs.flatMap fun v => (text ", " ++ bound v).symbols) ++ s)).2) = _
      rw [ih]

theorem symbols_intercalate_bound (v : Value) (vs : List Value) :
  (intercalate (text ", ") ((v :: vs).map bound)).symbols
    = .slot v :: vs.flatMap fun v => (text ", " ++ bound v).symbols
  := by
  induction vs generalizing v with
  | nil => rfl
  | cons w vs ih =>
      rw [List.map_cons, List.map_cons, intercalate, symbols_append, symbols_append,
        ← List.map_cons, ih w]
      simp

/-- A list of values is read back when it is closed. -/
theorem takeList?_boundList (vs : List Value) (s : List (Symbol Value)) :
  Symbol.takeList? ((boundList vs).symbols ++ ((text ")").symbols ++ s))
    = some (vs, (text ")").symbols ++ s)
  := by
  cases vs with
  | nil =>
      rw [boundList, symbols_text]
      rfl
  | cons v vs =>
      have hclosed : Symbol.takeSlots ((text ")").symbols ++ s)
          = ([], (text ")").symbols ++ s) := by
        rw [symbols_text]
        rfl
      rw [boundList, symbols_intercalate_bound, List.cons_append, Symbol.takeList?,
        takeSlots_append vs _ hclosed]
      simp

end Fragment

namespace Clause

open BoundSql.Symbol

/-! ### One clause -/

/-- The signs of comparisons. -/
def comparisons : List Comparison :=
  [.equal, .notEqual, .greater, .greaterOrEqual, .less, .lessOrEqual]

/-- A comparison of a column behind its name. -/
def takeCompare? (column : Ident) (s : List (Symbol Value)) :
    Option (Clause × List (Symbol Value)) :=
  comparisons.findSome? fun comparison => do
    let s ← takeText? comparison.sign.toList s
    let (v, s) ← takeSlot? s
    pure (.compare column comparison v, s)

/-- A search in a column behind its name. -/
def takeLike? (column : Ident) (asText : Bool) (s : List (Symbol Value)) :
    Option (Clause × List (Symbol Value)) := do
  let s ← takeText? " LIKE ".toList s
  match s with
  | .slot (.text pattern) :: s => some (.like column asText pattern, s)
  | _ => none

/-- A range of a column behind its name. -/
def takeBetween? (column : Ident) (s : List (Symbol Value)) :
    Option (Clause × List (Symbol Value)) := do
  let s ← takeText? " BETWEEN ".toList s
  let (low, s) ← takeSlot? s
  let s ← takeText? " AND ".toList s
  let (high, s) ← takeSlot? s
  pure (.between column low high, s)

/-- A list in parentheses behind a word. -/
def takeAmong? (word : String) (s : List (Symbol Value)) :
    Option (List Value × List (Symbol Value)) := do
  let s ← takeText? word.toList s
  let (vs, s) ← takeList? s
  let s ← takeText? ")".toList s
  pure (vs, s)

/-- What a clause asks of a column, behind the column's name. -/
def takeAsked? (column : Ident) (s : List (Symbol Value)) :
    Option (Clause × List (Symbol Value)) :=
  takeCompare? column s
    <|> takeLike? column false s
    <|> takeBetween? column s
    <|> (takeAmong? " IN (" s).map (fun (vs, s) => (.among column vs, s))
    <|> (takeAmong? " NOT IN (" s).map (fun (vs, s) => (.notAmong column vs, s))
    <|> (takeText? " IS NULL".toList s).map (.null column, ·)
    <|> (takeText? " IS NOT NULL".toList s).map (.notNull column, ·)
    <|> if column.text = "1" then (takeText? " = 0".toList s).map (.never, ·) else none

/-- The clause at the head of symbols and what follows it. -/
def take? (s : List (Symbol Value)) : Option (Clause × List (Symbol Value)) :=
  match takeName s with
  | (name, .char '(' :: s) =>
    if name = "CAST".toList then do
      let (name, s) := takeName s
      let column ← ident? name
      let s ← takeText? " AS TEXT)".toList s
      takeLike? column true s
    else none
  | (name, s) => do
    let column ← ident? name
    takeAsked? column s

/-- A clause that starts with the name of its column is what is asked of the column. -/
theorem take?_ident (column : Ident) (s : List (Symbol Value)) :
  take? ((ident column).symbols ++ (.char ' ' :: s)) = takeAsked? column (.char ' ' :: s)
  := by
  have hblank : ∀ c r, Symbol.char ' ' :: s = .char c :: r → Ident.isNameChar c = false := by
    intro c r h
    obtain ⟨⟨⟩, _⟩ := List.cons.inj h
    decide
  rw [take?, symbols_ident, takeName_ident column hblank]
  simp [ident?_toList]

/-- A clause on a column as text is a search in the column behind the name of the conversion. -/
theorem take?_cast (column : Ident) (s : List (Symbol Value)) :
  take? ((text "CAST(").symbols ++ ((ident column).symbols ++ ((text " AS TEXT)").symbols ++ s)))
    = takeLike? column true s
  := by
  have hcast : ∀ r : List (Symbol Value),
      takeName ((text "CAST(").symbols ++ r) = ("CAST".toList, .char '(' :: r) := fun _ => rfl
  have hblank : ∀ c r, (text " AS TEXT)").symbols ++ s = .char c :: r →
      Ident.isNameChar c = false := by
    intro c r h
    obtain ⟨⟨⟩, _⟩ := List.cons.inj h
    decide
  rw [take?, hcast]
  simp only [if_true]
  rw [symbols_ident, takeName_ident column hblank, Option.bind_eq_bind, ident?_toList,
    Option.bind_some, symbols_text, takeText?_append]
  rfl

theorem takeAmong?_append (word : String) (vs : List Value) (s : List (Symbol Value)) :
  takeAmong? word ((text word).symbols ++ ((boundList vs).symbols ++ ((text ")").symbols ++ s)))
    = some (vs, s)
  := by
  rw [takeAmong?, symbols_text, takeText?_append, Option.bind_eq_bind, Option.bind_some,
    takeList?_boundList, symbols_text]
  simp only [Option.bind_eq_bind, Option.bind_some, takeText?_append]
  rfl

theorem takeAsked?_among (column : Ident) (vs : List Value) (s : List (Symbol Value)) :
  takeAsked? column
      ((text " IN (").symbols ++ ((boundList vs).symbols ++ ((text ")").symbols ++ s)))
    = some (.among column vs, s)
  := by
  have hcompare : ∀ r, takeCompare? column ((text " IN (").symbols ++ r) = none := fun _ => rfl
  have hlike : ∀ r, takeLike? column false ((text " IN (").symbols ++ r) = none := fun _ => rfl
  have hbetween : ∀ r, takeBetween? column ((text " IN (").symbols ++ r) = none := fun _ => rfl
  rw [takeAsked?, hcompare, hlike, hbetween, takeAmong?_append]
  rfl

theorem takeAsked?_notAmong (column : Ident) (vs : List Value) (s : List (Symbol Value)) :
  takeAsked? column
      ((text " NOT IN (").symbols ++ ((boundList vs).symbols ++ ((text ")").symbols ++ s)))
    = some (.notAmong column vs, s)
  := by
  have hcompare : ∀ r, takeCompare? column ((text " NOT IN (").symbols ++ r) = none := fun _ => rfl
  have hlike : ∀ r, takeLike? column false ((text " NOT IN (").symbols ++ r) = none := fun _ => rfl
  have hbetween : ∀ r, takeBetween? column ((text " NOT IN (").symbols ++ r) = none := fun _ => rfl
  have hamong : ∀ r, takeAmong? " IN (" ((text " NOT IN (").symbols ++ r) = none := fun _ => rfl
  rw [takeAsked?, hcompare, hlike, hbetween, hamong, takeAmong?_append]
  rfl

/-- The column that the clause which never holds seems to name. -/
def one : Ident := ⟨"1", by decide⟩

/-- A clause is read back whatever follows it. -/
theorem take?_append (clause : Clause) (s : List (Symbol Value)) :
  take? (clause.fragment.symbols ++ s) = some (clause, s)
  := by
  cases clause with
  | compare column comparison v =>
      rw [fragment, append_assoc, symbols_append, List.append_assoc]
      cases comparison with
      | _ => apply take?_ident
  | like column asText pattern =>
      cases asText with
      | true =>
          simp only [fragment, if_true, append_assoc]
          rw [symbols_append, symbols_append, symbols_append, List.append_assoc, List.append_assoc,
            List.append_assoc]
          apply take?_cast
      | false =>
          simp only [fragment, Bool.false_eq_true, if_false]
          rw [append_assoc, symbols_append, List.append_assoc]
          apply take?_ident
  | between column low high =>
      simp only [fragment, append_assoc]
      rw [symbols_append, List.append_assoc]
      apply take?_ident
  | among column vs =>
      simp only [fragment, append_assoc]
      rw [symbols_append, List.append_assoc, symbols_append, symbols_append, List.append_assoc,
        List.append_assoc]
      apply Eq.trans (take?_ident column _) (takeAsked?_among column vs s)
  | notAmong column vs =>
      simp only [fragment, append_assoc]
      rw [symbols_append, List.append_assoc, symbols_append, symbols_append, List.append_assoc,
        List.append_assoc]
      apply Eq.trans (take?_ident column _) (takeAsked?_notAmong column vs s)
  | null column =>
      rw [fragment, symbols_append, List.append_assoc]
      apply take?_ident
  | notNull column =>
      rw [fragment, symbols_append, List.append_assoc]
      apply take?_ident
  | never => apply take?_ident one

/-! ### Lists of clauses -/

/-- The clauses at the head of symbols, at least one with AND between them, and what follows
them. -/
def takeAll? (s : List (Symbol Value)) : Option (List Clause × List (Symbol Value)) :=
  match take? s with
  | none => none
  | some (clause, s') =>
    match takeText? " AND ".toList s' with
    | none => some ([clause], s')
    | some r =>
      if r.length < s.length then (takeAll? r).map fun (clauses, s') => (clause :: clauses, s')
      else none
termination_by s.length

/-- The clauses behind WHERE, and what follows them. -/
def takeWhere? (s : List (Symbol Value)) : Option (List Clause × List (Symbol Value)) :=
  match takeText? " WHERE ".toList s with
  | none => some ([], s)
  | some s => takeAll? s

theorem isEmpty_fragment (clause : Clause) :
  clause.fragment.isEmpty = false
  := by
  cases clause with
  | like column asText pattern =>
      cases asText with
      | _ => rfl
  | _ => rfl

theorem conjunction_singleton (clause : Clause) :
  conjunction [clause] = clause.fragment
  := by
  simp [conjunction, joined, isEmpty_fragment, intercalate]

theorem conjunction_cons (clause clause' : Clause) (clauses : List Clause) :
  conjunction (clause :: clause' :: clauses)
    = clause.fragment ++ text " AND " ++ conjunction (clause' :: clauses)
  := by
  simp [conjunction, joined, isEmpty_fragment, intercalate]

/-- Clauses with AND between them are read back when nothing of the kind follows them. -/
theorem takeAll?_append (clause : Clause) (clauses : List Clause) {s : List (Symbol Value)}
    (hs : takeText? " AND ".toList s = none) :
  takeAll? ((conjunction (clause :: clauses)).symbols ++ s) = some (clause :: clauses, s)
  := by
  induction clauses generalizing clause with
  | nil =>
      rw [conjunction_singleton, takeAll?, take?_append]
      simp only [hs]
  | cons clause' clauses ih =>
      rw [conjunction_cons, symbols_append, symbols_append, List.append_assoc, List.append_assoc,
        takeAll?, take?_append]
      have hand : takeText? " AND ".toList
          ((text " AND ").symbols ++ ((conjunction (clause' :: clauses)).symbols ++ s))
          = some ((conjunction (clause' :: clauses)).symbols ++ s) := by
        rw [symbols_text, takeText?_append]
      have hlt : ((conjunction (clause' :: clauses)).symbols ++ s).length
          < (clause.fragment.symbols ++ ((text " AND ").symbols
            ++ ((conjunction (clause' :: clauses)).symbols ++ s))).length := by
        simp only [List.length_append, symbols_text, List.length_map]
        show _ < _ + (5 + _)
        omega
      simp only [hand, if_pos hlt, ih clause', Option.map_some]

/-- The clauses behind WHERE are read back when neither clauses nor WHERE follow them. -/
theorem takeWhere?_append (clauses : List Clause) {s : List (Symbol Value)}
    (hwhere : takeText? " WHERE ".toList s = none) (hand : takeText? " AND ".toList s = none) :
  takeWhere? ((whereFragment clauses).symbols ++ s) = some (clauses, s)
  := by
  cases clauses with
  | nil =>
      simp only [whereFragment, List.isEmpty_nil, if_true, symbols_empty, List.nil_append,
        takeWhere?, hwhere]
  | cons clause clauses =>
      simp only [whereFragment, List.isEmpty_cons, Bool.false_eq_true, if_false, symbols_append,
        symbols_text, List.append_assoc, takeWhere?, takeText?_append]
      apply takeAll?_append clause clauses hand

end Clause

end BoundSql
