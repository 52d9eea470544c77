import BoundSql.Error

/-!
# Tasks

A task works on a state under a cancel signal and ends with a result or an
error. The signal is set once and stays set. A task looks at it between two
steps, and a step may be raced against it: the answer counts unless the signal
fires while the answer is outstanding.
-/

namespace BoundSql

/-- When the signal fires while an answer is awaited. An answer that arrives together with the
signal still counts in a race. -/
inductive Firing where
  | never
  | withAnswer
  | beforeAnswer
  deriving DecidableEq, Repr

/-- An answer, and when the signal fires on the way to it. -/
structure Awaited (α : Type) where
  answer : Except Error α
  firing : Firing := .never

/-- A question to what the state stands for. -/
abbrev Request (σ α : Type) := σ → Awaited α × σ

/-- A state, and whether the signal has fired. -/
structure Signalled (σ : Type) where
  fired : Bool
  state : σ
  deriving Repr

/-- An activity on a state under a signal. -/
abbrev Task (σ : Type) := ExceptT Error (StateM (Signalled σ))

/-- A request whose answer is looked at further. -/
def Request.andThen {σ α β : Type} (q : Request σ α) (f : α → Except Error β) : Request σ β :=
  fun s =>
    let (a, s) := q s
    (⟨a.answer.bind f, a.firing⟩, s)

namespace Task

variable {σ α : Type}

/-- Sets the signal. -/
def cancel : Task σ Unit :=
  modify fun s => { s with fired := true }

/-- Whether the signal is set. -/
def isCancelled : Task σ Bool := do
  pure (← get).fired

/-- Goes on only while the signal is not set. -/
def check : Task σ Unit := do
  if ← isCancelled then throw .cancelled

/-- Makes a request, remembers whether the signal fired, and gives what was awaited. -/
def ask (q : Request σ α) : Task σ (Awaited α) := do
  let s ← get
  let (a, state) := q s.state
  set (⟨s.fired || a.firing != .never, state⟩ : Signalled σ)
  pure a

/-- Waits for the answer of a request, whatever the signal does. -/
def await (q : Request σ α) : Task σ α := do
  (← ask q).answer

/-- Races a request against the signal. -/
def race (q : Request σ α) : Task σ α := do
  check
  let a ← ask q
  if a.firing = .beforeAnswer then throw .cancelled
  a.answer

/-- Runs a task on a state, the signal being set or not at the start. -/
def runWith (t : Task σ α) (fired : Bool) (state : σ) : Except Error α × Signalled σ :=
  (t.run).run ⟨fired, state⟩

end Task

end BoundSql
