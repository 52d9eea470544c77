import BoundSql.Error
import BoundSql.Guard.Marker
import BoundSql.Text.Word

/-!
# Predicates

A predicate is a SELECT that asks whether something may be deleted. Its text
is refused when it does not begin with SELECT, when it holds a separator or a
word that changes data, be it in a literal or a comment, or when it numbers
its parameters itself.
-/

namespace BoundSql.Predicate

open BoundSql.Text

/-- A text behind the end of its first line. -/
def afterLine (cs : List Char) : List Char :=
  (cs.dropWhile (· != '\n')).drop 1

/-- A text behind the first end of a comment. -/
def afterComment : List Char → List Char
  | '*' :: '/' :: r => r
  | _ :: r => afterComment r
  | [] => []

theorem length_afterLine_le (cs : List Char) :
  (afterLine cs).length ≤ cs.length
  := by
  have hle := (List.dropWhile_suffix (· != '\n') (l := cs)).length_le
  simp only [afterLine, List.length_drop]
  omega

theorem length_afterComment_le (cs : List Char) :
  (afterComment cs).length ≤ cs.length
  := by
  fun_induction afterComment cs with
  | case1 r =>
      simp only [List.length_cons]
      omega
  | case2 c r _ ih =>
      simp only [List.length_cons]
      omega
  | case3 => apply Nat.le_refl

/-- A text from where its statement begins: behind blanks, comments and opening parentheses. A
comment ends at its first end mark, which may share the asterisk of its opening. -/
def statementStart (cs : List Char) : List Char :=
  match _h : dropBlanks cs with
  | '-' :: '-' :: r => statementStart (afterLine r)
  | '/' :: '*' :: r => statementStart (afterComment ('*' :: r))
  | '(' :: r => statementStart r
  | s => s
termination_by cs.length
decreasing_by
  all_goals
    have := dropBlanks_length_le cs
    rw [‹dropBlanks cs = _›] at this
    simp only [List.length_cons] at this
  · have := length_afterLine_le r
    omega
  · have := length_afterComment_le ('*' :: r)
    simp only [List.length_cons] at this
    omega
  · omega

/-- Whether a text begins with a keyword as a whole word; the keyword is given in lower case. -/
def beginsWith (keyword cs : List Char) : Bool :=
  (cs.take keyword.length).map Char.toLower == keyword &&
    (cs.drop keyword.length).head?.all fun c => !Marker.isNameChar c

/-- A letter in lower case; the long s and the sign for kelvin fold to their letters. -/
def fold (c : Char) : Char :=
  if c = '\u017F' then 's' else if c = '\u212A' then 'k' else c.toLower

/-- The words that change data. -/
def mutatingWords : List String :=
  ["insert", "update", "delete", "drop", "alter", "create", "exec", "execute", "waitfor",
   "truncate", "merge", "grant", "revoke", "copy", "call", "into"]

/-- The first word of a text that changes data. -/
def mutatingWord? (cs : List Char) : Option (List Char) :=
  (words cs).find? fun w => mutatingWords.contains (String.ofList (w.map fold))

/-- What is wrong with a predicate; the checks are made in this order. -/
def fault? (sql : String) : Option RuleFault :=
  let cs := sql.toList
  let body := statementStart cs
  if body.isEmpty then some .empty
  else if !beginsWith ['s', 'e', 'l', 'e', 'c', 't'] body then some .notSelect
  else if cs.contains ';' then some .separator
  else match mutatingWord? cs with
    | some w => some (.keyword (upper (String.ofList w)))
    | none => if Marker.hasPlaceholders sql then some .positional else none

end BoundSql.Predicate
