import BoundSql.Task

/-!
# Runs of tasks

A task is run under a signal and on a state, and gives a result together with
the signal and the state after it. The run of a sequence is the run of its
second part behind the result of the first.
-/

namespace BoundSql.Task

variable {σ α β : Type}

/-- What a race makes of an awaited answer. -/
def raced (a : Awaited α) : Except Error α :=
  if a.firing = .beforeAnswer then .error .cancelled else a.answer

@[simp]
theorem runWith_pure (a : α) (fired : Bool) (s : σ) :
  (pure a : Task σ α).runWith fired s = (.ok a, ⟨fired, s⟩)
  := rfl

@[simp]
theorem runWith_lift (r : Except Error α) (fired : Bool) (s : σ) :
  (liftM r : Task σ α).runWith fired s = (r, ⟨fired, s⟩)
  := rfl

theorem runWith_bind (t : Task σ α) (k : α → Task σ β) (fired : Bool) (s : σ) :
  (t >>= k).runWith fired s
    = match t.runWith fired s with
      | (.ok a, u) => (k a).runWith u.fired u.state
      | (.error e, u) => (.error e, u)
  := by
  change (match t.run.run ⟨fired, s⟩ with | (r, u) => (ExceptT.bindCont k r).run u) = _
  simp only [runWith, ExceptT.bindCont]
  cases t.run.run ⟨fired, s⟩ with
  | mk r u => cases r <;> rfl

/-- A sequence goes on with the result of its first part. -/
theorem runWith_bind_ok {t : Task σ α} {fired : Bool} {s : σ} {a : α} {u : Signalled σ}
    (h : t.runWith fired s = (.ok a, u)) (k : α → Task σ β) :
  (t >>= k).runWith fired s = (k a).runWith u.fired u.state
  := by
  rw [runWith_bind, h]

/-- A sequence ends with the error of its first part. -/
theorem runWith_bind_error {t : Task σ α} {fired : Bool} {s : σ} {e : Error} {u : Signalled σ}
    (h : t.runWith fired s = (.error e, u)) (k : α → Task σ β) :
  (t >>= k).runWith fired s = (.error e, u)
  := by
  rw [runWith_bind, h]

theorem runWith_map (f : α → β) (t : Task σ α) (fired : Bool) (s : σ) :
  (f <$> t).runWith fired s = ((t.runWith fired s).1.map f, (t.runWith fired s).2)
  := by
  rw [← bind_pure_comp, runWith_bind]
  rcases t.runWith fired s with ⟨r, u⟩
  cases r with
  | error e => rfl
  | ok a => rfl

theorem runWith_check (s : σ) :
  (check : Task σ Unit).runWith false s = (.ok (), ⟨false, s⟩)
  := rfl

theorem runWith_race_fired (q : Request σ α) (s : σ) :
  (race q).runWith true s = (.error .cancelled, ⟨true, s⟩)
  := rfl

theorem runWith_race (q : Request σ α) (s : σ) :
  (race q).runWith false s = (raced (q s).1, ⟨(q s).1.firing != .never, (q s).2⟩)
  := by
  have hask : (ask q).runWith false s = (.ok (q s).1, ⟨(q s).1.firing != .never, (q s).2⟩) := rfl
  rw [race, runWith_bind_ok (runWith_check s), runWith_bind_ok hask, raced]
  split
  · rfl
  · rfl

end BoundSql.Task
