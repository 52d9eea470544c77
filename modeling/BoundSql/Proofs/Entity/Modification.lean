import BoundSql.Proofs.Clause.Reading
import BoundSql.Proofs.Entity.Plan
import BoundSql.Proofs.Entity.Wording
import BoundSql.Proofs.Fragment.Written

/-!
# Modifications

A modification is what an UPDATE says: a table, assignments to its columns, and
the clauses that pick its rows. The text and the values of its statement tell it.
An update and a deletion that marks rows compile to statements of modifications.
-/

namespace BoundSql

open Fragment

/-- What a column is assigned: a value, or the number one above that of a column. -/
inductive Assigned where
  | value (v : Value)
  | above (column : Ident)
  deriving Repr

/-- A column and what it is assigned. -/
structure Assignment where
  column : Ident
  assigned : Assigned
  deriving Repr

/-- A table, assignments to its columns, and the clauses that pick the rows. -/
structure Modification where
  table : Ident
  sets : List Assignment
  clauses : List Clause
  deriving Repr

namespace Assignment

/-- An assignment of a value. -/
def ofPair (p : Ident × Value) : Assignment :=
  ⟨p.1, .value p.2⟩

/-- The assignment that moves a column on by one. -/
def bump (column : Ident) : Assignment :=
  ⟨column, .above column⟩

/-- An assignment as a fragment. -/
def fragment (a : Assignment) : Fragment :=
  match a.assigned with
  | .value v => Entity.assignment a.column v
  | .above column => ident a.column ++ text " = " ++ ident column ++ text " + 1"

theorem legible_fragment (a : Assignment) :
  a.fragment.Legible
  := by
  rw [fragment]
  cases a.assigned with
  | value v => apply AdHoc.legible_assignment
  | above column =>
      simp only [append_assoc]
      apply legible_ident_append
      apply legible_text_append (by decide)
      apply legible_ident_append column (legible_text (by decide))

theorem isEmpty_fragment (a : Assignment) :
  a.fragment.isEmpty = false
  := by
  rw [fragment]
  cases a.assigned with
  | value v => rfl
  | above column => rfl

end Assignment

/-- A modification as a fragment. -/
def Modification.fragment (m : Modification) : Fragment :=
  text "UPDATE " ++ ident m.table ++ text " SET "
    ++ joined ", " (m.sets.map Assignment.fragment) ++ text " WHERE "
    ++ Clause.conjunction m.clauses

theorem Modification.legible_fragment (m : Modification) :
  m.fragment.Legible
  := by
  have hsets : ∀ f ∈ m.sets.map Assignment.fragment, f.Legible := by
    rw [List.forall_mem_map]
    intro a _
    apply a.legible_fragment
  simp only [fragment, append_assoc]
  apply legible_text_append (by decide)
  apply legible_ident_append
  apply legible_text_append (by decide)
  apply (legible_joined (by decide) (by decide) hsets).append
  · apply legible_text_append (by decide) (Clause.legible_conjunction m.clauses)
  · apply opensApart_text_append (by decide)

/-! ### Reading modifications -/

namespace Symbol

variable {α β : Type}

/-- The items at the head of symbols, at least one with a separator between them, and what follows
them. -/
def takeSeparated? (item? : List (Symbol α) → Option (β × List (Symbol α))) (separator : List Char)
    (s : List (Symbol α)) : Option (List β × List (Symbol α)) :=
  match item? s with
  | none => none
  | some (b, s') =>
    match takeText? separator s' with
    | none => some ([b], s')
    | some r =>
      if r.length < s.length then
        (takeSeparated? item? separator r).map fun (bs, s') => (b :: bs, s')
      else none
termination_by s.length

/-- Items are read back when each of them is and no separator follows. -/
theorem takeSeparated?_append {item? : List (Symbol α) → Option (β × List (Symbol α))}
    {write : β → List (Symbol α)} (hitem : ∀ b s, item? (write b ++ s) = some (b, s))
    {separator : List Char} (hne : separator ≠ []) (b : β) (bs : List β) {s : List (Symbol α)}
    (hs : takeText? separator s = none) :
  takeSeparated? item? separator
      ((separator.map char).intercalate ((b :: bs).map write) ++ s)
    = some (b :: bs, s)
  := by
  induction bs generalizing b with
  | nil =>
      rw [List.map_singleton, List.intercalate_singleton, takeSeparated?, hitem]
      simp only [hs]
  | cons b' bs ih =>
      have hlt : ((separator.map char).intercalate ((b' :: bs).map write) ++ s).length
          < (write b ++ (separator.map char ++ ((separator.map char).intercalate
            ((b' :: bs).map write) ++ s))).length := by
        have hlength := List.length_pos_of_ne_nil hne
        simp only [List.length_append, List.length_map]
        omega
      rw [List.map_cons, List.map_cons, List.intercalate_cons_cons, ← List.map_cons,
        List.append_assoc, List.append_assoc, takeSeparated?, hitem]
      simp only [takeText?_append, if_pos hlt, ih b', Option.map_some]

/-- A name ends where a text follows that does not start like a name. -/
theorem takeName_ident_text (i : Ident) {t : String} (ht : startsApart t = true)
    (s : List (Symbol Value)) :
  takeName ((ident i).symbols ++ ((text t).symbols ++ s)) = (i.text.toList, (text t).symbols ++ s)
  := by
  rw [symbols_ident]
  apply takeName_ident
  intro c r hr
  rw [symbols_text] at hr
  cases hchars : t.toList with
  | nil => simp [startsApart, hchars] at ht
  | cons c' t' =>
      rw [hchars, List.map_cons, List.cons_append] at hr
      obtain ⟨⟨⟩, _⟩ := List.cons.inj hr
      simpa [startsApart, hchars] using ht

theorem takeText?_symbols (t : String) (s : List (Symbol Value)) :
  takeText? t.toList ((text t).symbols ++ s) = some s
  := by
  rw [symbols_text, takeText?_append]

end Symbol

namespace Assignment

open BoundSql.Symbol

/-- The number above that of a column at the head of symbols, and what follows it. -/
def takeAbove? (s : List (Symbol Value)) : Option (Assigned × List (Symbol Value)) := do
  let (name, s) := takeName s
  let column ← ident? name
  let s ← takeText? " + 1".toList s
  pure (.above column, s)

/-- What is assigned at the head of symbols, and what follows it. -/
def takeAssigned? (s : List (Symbol Value)) : Option (Assigned × List (Symbol Value)) :=
  (takeSlot? s).map (fun (v, s) => (.value v, s)) <|> takeAbove? s

/-- The assignment at the head of symbols, and what follows it. -/
def take? (s : List (Symbol Value)) : Option (Assignment × List (Symbol Value)) := do
  let (name, s) := takeName s
  let column ← ident? name
  let s ← takeText? " = ".toList s
  let (assigned, s) ← takeAssigned? s
  pure (⟨column, assigned⟩, s)

theorem takeAssigned?_above (column : Ident) (s : List (Symbol Value)) :
  takeAssigned? ((ident column).symbols ++ ((text " + 1").symbols ++ s)) = some (.above column, s)
  := by
  have hslot : takeSlot? ((ident column).symbols ++ ((text " + 1").symbols ++ s)) = none := by
    rw [symbols_ident]
    cases column.text.toList with
    | nil => rfl
    | cons c t => rfl
  rw [takeAssigned?, hslot, takeAbove?, takeName_ident_text column (by decide)]
  simp only [Option.bind_eq_bind, ident?_toList, Option.bind_some, takeText?_symbols]
  rfl

theorem take?_append (a : Assignment) (s : List (Symbol Value)) :
  take? (a.fragment.symbols ++ s) = some (a, s)
  := by
  obtain ⟨column, assigned⟩ := a
  have hassigned : ∀ r, takeAssigned? r = some (assigned, s) →
      take? ((ident column).symbols ++ ((text " = ").symbols ++ r))
        = some (⟨column, assigned⟩, s) := by
    intro r hr
    rw [take?, takeName_ident_text column (by decide)]
    simp only [Option.bind_eq_bind, ident?_toList, Option.bind_some, takeText?_symbols, hr]
    rfl
  cases assigned with
  | value v =>
      simp only [fragment, Entity.assignment, append_assoc, symbols_append, List.append_assoc]
      apply hassigned
      rfl
  | above other =>
      simp only [fragment, append_assoc, symbols_append, List.append_assoc]
      apply hassigned
      apply takeAssigned?_above

end Assignment

/-- The modification that a statement says. -/
def Statement.readModification? (s : Statement) : Option Modification := do
  let symbols ← s.symbols?
  let symbols ← Symbol.takeText? "UPDATE ".toList symbols
  let (name, symbols) := Symbol.takeName symbols
  let table ← Symbol.ident? name
  let symbols ← Symbol.takeText? " SET ".toList symbols
  let (sets, symbols) ← Symbol.takeSeparated? Assignment.take? ", ".toList symbols
  let symbols ← Symbol.takeText? " WHERE ".toList symbols
  let (clauses, rest) ← Clause.takeAll? symbols
  if rest.isEmpty then some ⟨table, sets, clauses⟩ else none

/-- The statement of a modification tells it. -/
theorem Modification.readModification?_build (m : Modification) (hsets : m.sets ≠ [])
    (hclauses : m.clauses ≠ []) :
  m.fragment.build.readModification? = some m
  := by
  obtain ⟨table, sets, clauses⟩ := m
  obtain ⟨a, sets, rfl⟩ := List.exists_cons_of_ne_nil hsets
  obtain ⟨clause, clauses, rfl⟩ := List.exists_cons_of_ne_nil hclauses
  have hfull : ∀ f ∈ (a :: sets).map Assignment.fragment, f.isEmpty = false := by
    rw [List.forall_mem_map]
    intro a _
    apply a.isEmpty_fragment
  have hwhere : Symbol.takeText? ", ".toList
      ((text " WHERE ").symbols ++ (Clause.conjunction (clause :: clauses)).symbols) = none := by
    rw [symbols_text]
    rfl
  have hread : Symbol.takeSeparated? Assignment.take? ", ".toList
      ((text ", ").symbols.intercalate (((a :: sets).map Assignment.fragment).map symbols)
        ++ ((text " WHERE ").symbols ++ (Clause.conjunction (clause :: clauses)).symbols))
      = some (a :: sets,
        (text " WHERE ").symbols ++ (Clause.conjunction (clause :: clauses)).symbols) := by
    rw [List.map_map, symbols_text ", "]
    apply Symbol.takeSeparated?_append Assignment.take?_append (by decide) a sets hwhere
  have hclause := Clause.takeAll?_append clause clauses (s := []) rfl
  rw [List.append_nil] at hclause
  rw [Statement.readModification?, Statement.symbols?_build (legible_fragment _), fragment]
  simp only [append_assoc, symbols_append, joined_eq_intercalate _ hfull, symbols_intercalate]
  have hname := Symbol.takeName_ident_text table (t := " SET ") (by decide)
  simp only [Option.bind_eq_bind, Option.bind_some, Symbol.takeText?_symbols, hname,
    Symbol.ident?_toList, hread, hclause]
  rfl

/-! ### Updates and deletions -/

/-- The assignments of an edit. -/
def Audit.edits (stamp : Stamp) : List Assignment :=
  [.ofPair (updatedBy, .text stamp.user), .ofPair (updatedAt, .timestampTz stamp.time)]

namespace Update

/-- The assignments of the stamp, which only an audited update looks at. -/
def edits (u : Update) (stamp : Option Stamp) : List Assignment :=
  if u.audits then stamp.elim [] Audit.edits else []

/-- The clause that checks the token. -/
def check (u : Update) (e : Entity) : List Clause :=
  match e.token, u.token with
  | some f, some v => [.compare f.column .equal v]
  | _, _ => []

/-- The modification of a plan under a stamp. -/
def modification (u : Update) (plan : UpdatePlan) (stamp : Option Stamp) : Modification where
  table := plan.entity.table
  sets := plan.assignments.map (fun (f, v) => .ofPair (f.column, v)) ++ u.edits stamp
    ++ plan.entity.token.toList.map fun f => .bump f.column
  clauses := .compare plan.entity.key.column .equal u.id :: u.check plan.entity

/-- The check of the token stands behind the clause that picks the row. -/
theorem conjunction_check (u : Update) (e : Entity) (clause : Clause) :
  Clause.conjunction (clause :: u.check e) = clause.fragment
    ++ match e.token, u.token with
    | some f, some v => text " AND " ++ Entity.assignment f.column v
    | _, _ => empty
  := by
  rw [check]
  split
  · rw [Clause.conjunction_cons, Clause.conjunction_singleton, append_assoc]
    rfl
  · rw [Clause.conjunction_singleton, append_empty]

/-- A plan is rendered as its modification. -/
theorem rendering_eq_fragment (u : Update) (plan : UpdatePlan) (stamp : Option Stamp) :
  u.rendering plan ((u.edits stamp).map Assignment.fragment)
    = (u.modification plan stamp).fragment
  := by
  have hsets : plan.assignments.map (fun (f, v) => Entity.assignment f.column v)
      ++ (u.edits stamp).map Assignment.fragment ++ plan.entity.token.toList.map bumpFragment
      = (u.modification plan stamp).sets.map Assignment.fragment := by
    rw [modification, List.map_append, List.map_append, List.map_map, List.map_map]
    rfl
  rw [rendering, hsets, Modification.fragment, append_assoc]
  congr 1
  apply (conjunction_check u plan.entity (.compare plan.entity.key.column .equal u.id)).symm

theorem eq_build_of_render {u : Update} {plan : UpdatePlan} {stamp : Option Stamp}
    {s : Statement} (h : u.render plan stamp = .ok s) :
  s = (u.modification plan stamp).fragment.build
  := by
  rw [← rendering_eq_fragment, edits]
  unfold render at h
  split at h
  · next haudits =>
      obtain rfl := Except.ok.inj h
      rw [haudits]
      rfl
  · next haudits =>
      obtain rfl := Except.ok.inj h
      rw [haudits]
      rfl
  · contradiction

theorem readModification?_of_compile {u : Update} {e : Entity} {stamp : Option Stamp}
    {s : Statement} (h : u.compile e stamp = .ok s) :
  ∃ plan, u.plan e = .ok plan ∧ s.readModification? = some (u.modification plan stamp)
  := by
  rw [compile] at h
  obtain ⟨plan, hplan, hrender⟩ := bind_eq_ok.mp h
  use plan, hplan
  obtain ⟨rfl, hplanned⟩ := planned_of_plan hplan
  rw [eq_build_of_render hrender]
  apply Modification.readModification?_build
  · rw [modification]
    simp [hplanned.nonempty]
  · apply List.cons_ne_nil

end Update

namespace Entity

/-- The modification that marks rows as deleted. -/
def deletion (e : Entity) (rows : Restriction) (stamp : Stamp) : Modification where
  table := e.table
  sets := .ofPair (Audit.isDeleted, .bool true) :: Audit.edits stamp
  clauses := rows.clauses

theorem readModification?_of_softDelete {e : Entity} {rows : Restriction} {stamp : Stamp}
    {s : Statement} (h : e.softDelete rows stamp = .ok s) :
  s.readModification? = some (e.deletion rows stamp)
  := by
  rw [softDelete, softDeleteColumn?] at h
  split at h
  · contradiction
  · next deleted hdeleted =>
      obtain rfl := Except.ok.inj h
      obtain rfl : Audit.isDeleted = deleted := by
        split at hdeleted
        · apply Option.some.inj hdeleted
        · contradiction
      rw [← Modification.readModification?_build (e.deletion rows stamp) (List.cons_ne_nil _ _)
        rows.clauses_ne_nil, Restriction.fragment_eq]
      rfl

end Entity

end BoundSql
