import Compendium.Event

/-!
# Actions

An `Action` changes a state, tells events, and ends with a value or with a failure.  The state
that it has reached when it fails is kept.
-/

namespace Compendium

/-- What an action ends with. -/
structure Outcome (σ α : Type) where
  result : Except Failure α
  state : σ
  /-- What has been told, in order. -/
  events : List Event

/-- A computation over a state. -/
def Action (σ α : Type) : Type := σ → Outcome σ α

namespace Action

variable {σ τ α β : Type}

/-- End with a value. -/
def value (a : α) : Action σ α := fun s => ⟨.ok a, s, []⟩

/-- End with a failure. -/
def fail (f : Failure) : Action σ α := fun s => ⟨.error f, s, []⟩

/-- Run an action and then the one that its value leads to, unless it fails. -/
def andThen (x : Action σ α) (f : α → Action σ β) : Action σ β := fun s =>
  let first := x s
  match first.result with
  | .error e => ⟨.error e, first.state, first.events⟩
  | .ok a =>
    let second := f a first.state
    ⟨second.result, second.state, first.events ++ second.events⟩

instance : Monad (Action σ) where
  pure := value
  bind := andThen

/-- The state. -/
def state : Action σ σ := fun s => ⟨.ok s, s, []⟩

/-- Change the state. -/
def change (f : σ → σ) : Action σ Unit := fun s => ⟨.ok (), f s, []⟩

/-- Tell an event. -/
def tell (e : Event) : Action σ Unit := fun s => ⟨.ok (), s, [e]⟩

/-- Tell events in order. -/
def tellAll (es : List Event) : Action σ Unit := fun s => ⟨.ok (), s, es⟩

/-- End with a value or with a failure. -/
def ofExcept (r : Except Failure α) : Action σ α := fun s => ⟨r, s, []⟩

/-- Run an action on a part of the state. -/
def within (part : σ → τ) (replace : σ → τ → σ) (x : Action τ α) : Action σ α := fun s =>
  let inner := x (part s)
  ⟨inner.result, replace s inner.state, inner.events⟩

end Action

end Compendium
