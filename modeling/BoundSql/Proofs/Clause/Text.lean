import BoundSql.Proofs.Clause.Reading
import BoundSql.Proofs.Fragment.Written

/-!
# Clauses as they are written

A clause is written with a placeholder for each of the values that it binds,
numbered on from those in front of it. Clauses are written in order with AND
between them, and their values are bound in the same order.
-/

namespace BoundSql

open Fragment

/-- Values as they are written behind `n` others, with commas between their placeholders. -/
def Fragment.boundText (n : Nat) (vs : List Value) : List Char :=
  if vs.isEmpty then "NULL".toList
  else ", ".toList.intercalate ((List.range' (n + 1) vs.length).map placeholder)

/-- A list of values in front of symbols is written with as many placeholders. -/
theorem Fragment.write_boundList (n : Nat) (vs : List Value) (s : List (Symbol Value)) :
  Symbol.write n ((boundList vs).symbols ++ s) = boundText n vs ++ Symbol.write (n + vs.length) s
  := by
  rw [Symbol.write_append, ← params_eq_filterMap, params_boundList, boundText]
  cases vs with
  | nil =>
      rw [boundList, symbols_text, Symbol.write_map_char]
      rfl
  | cons v vs =>
      rw [symbols_boundList (List.cons_ne_nil v vs), write_slots]
      rfl

namespace Clause

/-- The values that a clause binds. -/
def values : Clause → List Value
  | .compare _ _ v => [v]
  | .like _ _ pattern => [.text pattern]
  | .between _ low high => [low, high]
  | .among _ vs => vs
  | .notAmong _ vs => vs
  | .null _ => []
  | .notNull _ => []
  | .never => []

theorem params_fragment (clause : Clause) :
  clause.fragment.params = clause.values
  := by
  cases clause with
  | like column asText pattern =>
      cases asText with
      | _ => simp [fragment, values, params_text, params_ident, params_bound]
  | _ =>
      simp [fragment, values, params_text, params_ident, params_bound, params_boundList]

/-- Nothing is left out between clauses. -/
theorem joined_fragments (sep : String) (clauses : List Clause) :
  joined sep (clauses.map fragment) = intercalate (text sep) (clauses.map fragment)
  := by
  apply joined_eq_intercalate
  rw [List.forall_mem_map]
  intro clause _
  apply isEmpty_fragment

theorem params_joined (sep : String) (clauses : List Clause) :
  (joined sep (clauses.map fragment)).params = clauses.flatMap values
  := by
  rw [joined_fragments, params_intercalate, List.flatMap_map]
  simp only [params_fragment]

theorem params_conjunction (clauses : List Clause) :
  (conjunction clauses).params = clauses.flatMap values
  := params_joined " AND " clauses

/-- Clauses behind WHERE bind their values in order. -/
theorem params_whereFragment (clauses : List Clause) :
  (whereFragment clauses).params = clauses.flatMap values
  := by
  rw [whereFragment]
  split
  · next hempty =>
      rw [List.isEmpty_iff.mp hempty]
      rfl
  · rw [params_append, params_text, params_conjunction, List.nil_append]

/-- A clause as it is written behind `n` values. -/
def written (n : Nat) : Clause → List Char
  | .compare column comparison _ =>
    column.text.toList ++ comparison.sign.toList ++ placeholder (n + 1)
  | .like column asText _ =>
    (if asText then "CAST(".toList ++ column.text.toList ++ " AS TEXT)".toList
      else column.text.toList) ++ " LIKE ".toList ++ placeholder (n + 1)
  | .between column _ _ =>
    column.text.toList ++ " BETWEEN ".toList ++ placeholder (n + 1) ++ " AND ".toList
      ++ placeholder (n + 2)
  | .among column vs => column.text.toList ++ " IN (".toList ++ boundText n vs ++ ")".toList
  | .notAmong column vs =>
    column.text.toList ++ " NOT IN (".toList ++ boundText n vs ++ ")".toList
  | .null column => column.text.toList ++ " IS NULL".toList
  | .notNull column => column.text.toList ++ " IS NOT NULL".toList
  | .never => "1 = 0".toList

/-- Clauses as they are written one after the other behind `n` values. -/
def writtenFrom : Nat → List Clause → List (List Char)
  | _, [] => []
  | n, clause :: r => clause.written n :: writtenFrom (n + clause.values.length) r

theorem write_fragment (n : Nat) (clause : Clause) :
  Symbol.write n clause.fragment.symbols = clause.written n
  := by
  cases clause with
  | like column asText pattern =>
      cases asText with
      | _ => simp [fragment, written, Symbol.write_text, Symbol.write]
  | among column vs =>
      simp only [fragment, written, append_assoc, symbols_append, symbols_ident, symbols_text,
        List.append_assoc, Symbol.write_text, write_boundList, Symbol.write_map_char]
  | notAmong column vs =>
      simp only [fragment, written, append_assoc, symbols_append, symbols_ident, symbols_text,
        List.append_assoc, Symbol.write_text, write_boundList, Symbol.write_map_char]
  | _ => simp [fragment, written, Symbol.write_text, Symbol.write]

/-- A clause has as many places as it binds values. -/
theorem length_slots (clause : Clause) :
  (clause.fragment.symbols.filterMap Symbol.slot?).length = clause.values.length
  := by
  rw [← params_eq_filterMap, params_fragment]

/-- Clauses with a text between them are written in order with that text between them. -/
theorem write_joined (sep : String) (n : Nat) (clauses : List Clause) :
  Symbol.write n (joined sep (clauses.map fragment)).symbols
    = sep.toList.intercalate (writtenFrom n clauses)
  := by
  rw [joined_fragments]
  induction clauses generalizing n with
  | nil => rfl
  | cons clause clauses ih =>
      cases clauses with
      | nil => simp [intercalate, write_fragment, writtenFrom]
      | cons clause' clauses =>
          rw [List.map_cons, List.map_cons, intercalate, ← List.map_cons, symbols_append,
            symbols_append, List.append_assoc, Symbol.write_append, write_fragment, length_slots,
            symbols_text, Symbol.write_text, ih]
          simp only [writtenFrom, List.intercalate_cons_cons, List.append_assoc]

/-- Clauses are written in order with AND between them. -/
theorem write_conjunction (n : Nat) (clauses : List Clause) :
  Symbol.write n (conjunction clauses).symbols = " AND ".toList.intercalate (writtenFrom n clauses)
  := write_joined " AND " n clauses

/-- Clauses as they are written behind WHERE and behind `n` values; nothing without clauses. -/
def whereText (n : Nat) (clauses : List Clause) : List Char :=
  if clauses.isEmpty then []
  else " WHERE ".toList ++ " AND ".toList.intercalate (writtenFrom n clauses)

theorem write_whereFragment (n : Nat) (clauses : List Clause) :
  Symbol.write n (whereFragment clauses).symbols = whereText n clauses
  := by
  rw [whereFragment, whereText]
  split
  · rfl
  · rw [symbols_append, symbols_text, Symbol.write_text, write_conjunction]

end Clause

end BoundSql
