import IssueNotice.Failure
import IssueNotice.Run.Event

/-!
# Traced computations

A `Traced` computation changes a state, notes what it does and ends with a value or a failure. What
was noted before a failure stays noted, and nothing after it runs.
-/

namespace IssueNotice

/-- How a traced computation ended. -/
structure Outcome (σ α : Type) where
  acts : List Act
  result : Except Failure α
  state : σ

/-- The events of a traced computation, reads left aside. -/
def Outcome.events {σ α : Type} (o : Outcome σ α) : List Event :=
  o.acts.filterMap Act.event?

/-- A computation that changes a state, notes its acts and may fail. -/
def Traced (σ α : Type) : Type := σ → Outcome σ α

namespace Traced

variable {σ α β γ : Type}

/-- Nothing but a value. -/
protected def pure (a : α) : Traced σ α := fun s => ⟨[], .ok a, s⟩

/-- One computation after another, unless the first fails. -/
protected def bind (x : Traced σ α) (f : α → Traced σ β) : Traced σ β := fun s =>
  let o := x s
  match o.result with
  | .error e => ⟨o.acts, .error e, o.state⟩
  | .ok a =>
    let p := f a o.state
    ⟨o.acts ++ p.acts, p.result, p.state⟩

instance : Monad (Traced σ) where
  pure := Traced.pure
  bind := Traced.bind

/-- Ends with a failure. -/
def fail (e : Failure) : Traced σ α := fun s => ⟨[], .error e, s⟩

/-- The value of a check that may fail. -/
def ofExcept : Except Failure α → Traced σ α
  | .ok a => pure a
  | .error e => fail e

/-- Notes an event. -/
def note (e : Event) : Traced σ Unit := fun s => ⟨[.event e], .ok (), s⟩

/-- Notes a read from a stream. -/
def read : Traced σ Unit := fun s => ⟨[.read], .ok (), s⟩

/-- Notes a call and carries it out. -/
def call (e : Event) (answer : σ → Except Failure α × σ) : Traced σ α := fun s =>
  let (result, s) := answer s
  ⟨[.event e], result, s⟩

/-- Notes a release and carries it out. -/
def release (e : Event) (f : σ → σ) : Traced σ Unit := fun s => ⟨[.event e], .ok (), f s⟩

/-- Runs a second computation after the first, whether that failed or not. -/
def andFinally (x : Traced σ α) (last : Traced σ Unit) : Traced σ α := fun s =>
  let o := x s
  let p := last o.state
  ⟨o.acts ++ p.acts, o.result, p.state⟩

/-- Runs a second computation after the first if that failed, and keeps the failure. -/
def onFailure (x : Traced σ α) (handler : Failure → Traced σ Unit) : Traced σ α := fun s =>
  let o := x s
  match o.result with
  | .ok _ => o
  | .error e =>
    let p := handler e o.state
    ⟨o.acts ++ p.acts, .error e, p.state⟩

/-- Runs a computation for each item in turn, carrying a value along. -/
def fold (step : β → α → Traced σ β) (b : β) : List α → Traced σ β
  | [] => pure b
  | a :: rest => do
    let b ← step b a
    fold step b rest

/-- Runs a computation for each item in turn, carrying a value along, and lists what comes out. -/
def mapAccum (f : β → α → Traced σ (γ × β)) (b : β) : List α → Traced σ (List γ × β)
  | [] => pure ([], b)
  | a :: rest => do
    let (c, b) ← f b a
    let (cs, b) ← mapAccum f b rest
    pure (c :: cs, b)

end Traced

end IssueNotice
