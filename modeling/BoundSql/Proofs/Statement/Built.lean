import BoundSql.Proofs.Fragment.Symbol
import BoundSql.Proofs.Result

/-!
# Built statements

A statement is plain when it is built from a plainly worded fragment, and
legible when it is built from a legible one. The placeholders of a legible
statement are numbered from one on, one for each value, and none runs into a
name.
-/

namespace BoundSql

open BoundSql.Text

namespace Statement

/-- The statement of a plainly worded fragment. -/
def Plain (s : Statement) : Prop :=
  ∃ f : Fragment, f.Plain ∧ s = f.build

/-- The statement of a legible fragment. -/
def Legible (s : Statement) : Prop :=
  ∃ f : Fragment, f.Legible ∧ s = f.build

/-- The placeholders of a statement are the numbers from one on in order, as many as there are
values, and none is followed by a character of a name. -/
structure Numbered (s : Statement) : Prop where
  numbers : (Symbol.scan s.sql.toList).filterMap Symbol.slot?
    = (List.range' 1 s.params.length).map digits
  separate : (Symbol.scan s.sql.toList).IsChain Symbol.Separate

theorem Legible.numbered {s : Statement} (h : s.Legible) :
  s.Numbered
  := by
  obtain ⟨f, hf, rfl⟩ := h
  have hscan : Symbol.scan f.sql.toList = Fragment.numbered 0 f.pieces := by
    rw [Fragment.sql, String.toList_ofList, Fragment.scan_renderFrom hf]
  constructor
  · rw [Fragment.build, hscan, Fragment.filterMap_slot?_numbered, Fragment.params]
  · rw [Fragment.build, hscan]
    apply Fragment.separate_numbered hf

end Statement

namespace Fragment

variable {f : Fragment}

theorem Legible.build (h : f.Legible) :
  f.build.Legible
  := ⟨f, h, rfl⟩

/-- The statement of a fragment that is both plainly worded and legible. -/
theorem Plain.build (h : f.Plain) (h' : f.Legible) :
  f.build.Plain ∧ f.build.Legible
  := ⟨⟨f, h, rfl⟩, h'.build⟩

end Fragment

end BoundSql
