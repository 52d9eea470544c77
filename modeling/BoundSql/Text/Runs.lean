/-!
# Runs of code points

A set of characters is given by its runs: pairs of the first and the last
code point of each stretch, in increasing order.
-/

namespace BoundSql.Text

/-- Whether a code point lies in one of the runs. -/
def inRuns (runs : List (Nat × Nat)) (n : Nat) : Bool :=
  runs.any fun r => r.1 ≤ n && n ≤ r.2

theorem inRuns_iff (runs : List (Nat × Nat)) (n : Nat) :
  inRuns runs n = true ↔ ∃ r ∈ runs, r.1 ≤ n ∧ n ≤ r.2
  := by
  simp [inRuns]

end BoundSql.Text
