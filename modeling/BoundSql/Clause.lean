import BoundSql.Fragment

/-!
# Clauses

A clause is one condition on a row in the form in which a statement states
it. The clauses of a statement are joined by AND behind its WHERE.
-/

namespace BoundSql

/-- A comparison of a column with a value. -/
inductive Comparison where
  | equal
  | notEqual
  | greater
  | greaterOrEqual
  | less
  | lessOrEqual
  deriving DecidableEq, Repr

/-- The sign of a comparison with blanks around it. -/
def Comparison.sign : Comparison → String
  | .equal => " = "
  | .notEqual => " <> "
  | .greater => " > "
  | .greaterOrEqual => " >= "
  | .less => " < "
  | .lessOrEqual => " <= "

/-- One condition on a row. A list that nothing can be in makes the clause that never holds. -/
inductive Clause where
  | compare (column : Ident) (comparison : Comparison) (value : Value)
  | like (column : Ident) (asText : Bool) (pattern : String)
  | between (column : Ident) (low high : Value)
  | among (column : Ident) (values : List Value)
  | notAmong (column : Ident) (values : List Value)
  | null (column : Ident)
  | notNull (column : Ident)
  | never
  deriving Repr

namespace Clause

open Fragment

/-- A clause as a fragment. -/
def fragment : Clause → Fragment
  | .compare column comparison v => ident column ++ text comparison.sign ++ bound v
  | .like column asText pattern =>
    (if asText then text "CAST(" ++ ident column ++ text " AS TEXT)" else ident column)
      ++ text " LIKE " ++ bound (.text pattern)
  | .between column low high =>
    ident column ++ text " BETWEEN " ++ bound low ++ text " AND " ++ bound high
  | .among column vs => ident column ++ text " IN (" ++ boundList vs ++ text ")"
  | .notAmong column vs => ident column ++ text " NOT IN (" ++ boundList vs ++ text ")"
  | .null column => ident column ++ text " IS NULL"
  | .notNull column => ident column ++ text " IS NOT NULL"
  | .never => text "1 = 0"

/-- The pattern that a text matches when it contains the given one. -/
def containing (s : String) : String :=
  "%" ++ s ++ "%"

/-- The clauses joined by AND. -/
def conjunction (clauses : List Clause) : Fragment :=
  joined " AND " (clauses.map fragment)

/-- The clauses behind WHERE; nothing without clauses. -/
def whereFragment (clauses : List Clause) : Fragment :=
  if clauses.isEmpty then empty else text " WHERE " ++ conjunction clauses

end Clause

end BoundSql
