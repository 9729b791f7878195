import Mathlib.Logic.Basic
import Compendium.Action

/-!
# What actions end with

`Action.Meets` says what holds of the state in which an action ends, with a value or with a
failure.  For an action that is put together from others it comes down to those, so that what a
run does is shown step by step.
-/

namespace Compendium.Action

variable {σ τ α β : Type} {s : σ} {done : α → σ → Prop} {failed : Failure → σ → Prop}

/-- Whether `done` holds where the action ends with a value, and `failed` where it fails. -/
def Meets (x : Action σ α) (s : σ) (done : α → σ → Prop) (failed : Failure → σ → Prop) : Prop :=
  match (x s).result with
  | .ok a => done a (x s).state
  | .error failure => failed failure (x s).state

theorem meets_iff {x : Action σ α} :
  x.Meets s done failed ↔
    (∀ a, (x s).result = .ok a → done a (x s).state)
      ∧ ∀ failure, (x s).result = .error failure → failed failure (x s).state
  := by
  rw [Meets]
  cases (x s).result <;> simp

/-- What an action meets holds of the value that it ends with. -/
theorem Meets.of_ok {x : Action σ α} {a : α} (h : x.Meets s done failed)
    (hx : (x s).result = .ok a) :
  done a (x s).state
  := (meets_iff.mp h).1 a hx

/-- What an action meets holds of the failure that it ends with. -/
theorem Meets.of_error {x : Action σ α} {failure : Failure} (h : x.Meets s done failed)
    (hx : (x s).result = .error failure) :
  failed failure (x s).state
  := (meets_iff.mp h).2 failure hx

/-- What holds whatever an action ends with holds in the end. -/
theorem Meets.always {x : Action σ α} {P : σ → Prop} (h : x.Meets s (fun _ => P) fun _ => P) :
  P (x s).state
  := by
  rw [Meets] at h
  cases hx : (x s).result <;> simpa [hx] using h

/-- An action meets whatever follows from what it meets. -/
theorem Meets.mono {x : Action σ α} {done' : α → σ → Prop} {failed' : Failure → σ → Prop}
    (h : x.Meets s done failed) (hd : ∀ a t, done a t → done' a t)
    (hf : ∀ failure t, failed failure t → failed' failure t) :
  x.Meets s done' failed'
  := by
  rw [meets_iff] at h ⊢
  constructor
  · intro a ha
    apply hd a _ (h.1 a ha)
  · intro failure hfailure
    apply hf failure _ (h.2 failure hfailure)

/-! ### Single actions -/

@[simp]
theorem meets_pure {a : α} :
  (pure a : Action σ α).Meets s done failed ↔ done a s
  := Iff.rfl

/-- The state can be had without a change of it. -/
@[simp]
theorem meets_state {done : σ → σ → Prop} :
  (state : Action σ σ).Meets s done failed ↔ done s s
  := Iff.rfl

@[simp]
theorem meets_change {f : σ → σ} {done : Unit → σ → Prop} :
  (change f).Meets s done failed ↔ done () (f s)
  := Iff.rfl

/-- What is told leaves the state as it is. -/
@[simp]
theorem meets_tell {e : Event} {done : Unit → σ → Prop} :
  (tell e).Meets s done failed ↔ done () s
  := Iff.rfl

@[simp]
theorem meets_tellAll {es : List Event} {done : Unit → σ → Prop} :
  (tellAll es).Meets s done failed ↔ done () s
  := Iff.rfl

@[simp]
theorem meets_fail {failure : Failure} :
  (fail failure : Action σ α).Meets s done failed ↔ failed failure s
  := Iff.rfl

@[simp]
theorem meets_ofExcept_ok {a : α} :
  (ofExcept (.ok a) : Action σ α).Meets s done failed ↔ done a s
  := Iff.rfl

@[simp]
theorem meets_ofExcept_error {failure : Failure} :
  (ofExcept (.error failure) : Action σ α).Meets s done failed ↔ failed failure s
  := Iff.rfl

/-! ### Actions put together -/

/-- An action is followed by another one if it ends with a value, and ends both if it fails. -/
@[simp]
theorem meets_bind {x : Action σ α} {f : α → Action σ β} {done : β → σ → Prop} :
  (x >>= f).Meets s done failed
    ↔ x.Meets s (fun a t => (f a).Meets t done failed) failed
  := by
  change Meets (andThen x f) s done failed ↔ _
  rw [Meets, Meets, andThen]
  cases (x s).result <;> rfl

/-- An action on a part of the state replaces this part, also when it fails. -/
@[simp]
theorem meets_within {part : σ → τ} {replace : σ → τ → σ} {x : Action τ α} :
  (within part replace x).Meets s done failed
    ↔ x.Meets (part s) (fun a t => done a (replace s t))
        (fun failure t => failed failure (replace s t))
  := Iff.rfl

/-! ### Actions one after the other -/

/-- After a value, the next action goes on from the state that is left. -/
theorem bind_of_ok {x : Action σ α} {f : α → Action σ β} {a : α} (h : (x s).result = .ok a) :
  (x >>= f) s = ⟨(f a (x s).state).result, (f a (x s).state).state,
    (x s).events ++ (f a (x s).state).events⟩
  := by
  change andThen x f s = _
  rw [andThen, h]

/-- After a failure, nothing more is done. -/
theorem bind_of_error {x : Action σ α} {f : α → Action σ β} {failure : Failure}
    (h : (x s).result = .error failure) :
  (x >>= f) s = ⟨.error failure, (x s).state, (x s).events⟩
  := by
  change andThen x f s = _
  rw [andThen, h]

/-- What follows an action matters only for the values that this ends with. -/
theorem bind_congr_of_ok {x : Action σ α} {f f' : α → Action σ β}
    (h : ∀ s a, (x s).result = .ok a → f a = f' a) :
  x >>= f = x >>= f'
  := by
  funext s
  cases hresult : (x s).result with
  | error failure => rw [bind_of_error hresult, bind_of_error hresult]
  | ok a => rw [bind_of_ok hresult, bind_of_ok hresult, h s a hresult]

/-- Without its value, an action leaves the same state. -/
theorem bind_unit_state (x : Action σ α) (s : σ) :
  ((do
    let _ ← x
    return) s : Outcome σ Unit).state = (x s).state
  := by
  cases h : (x s).result with
  | error failure => rw [bind_of_error h]
  | ok a =>
    rw [bind_of_ok h]
    rfl

theorem tell_bind (e : Event) (f : Unit → Action σ α) (s : σ) :
  (tell e >>= f) s = ⟨(f () s).result, (f () s).state, e :: (f () s).events⟩
  := rfl

theorem state_bind (f : σ → Action σ α) (s : σ) :
  (state >>= f) s = f s s
  := rfl

/-- Run an action, whatever it ends with. -/
def attempt (x : Action σ α) : Action σ Unit := fun s => ⟨.ok (), (x s).state, (x s).events⟩

/-- Run actions in turn, whatever each of them ends with. -/
def attempts : List (Action σ α) → Action σ Unit
  | [] => return
  | x :: rest => do
    attempt x
    attempts rest

/-- Actions whose failures are passed over end with a value. -/
theorem attempts_result (xs : List (Action σ α)) (s : σ) :
  (attempts xs s).result = .ok ()
  := by
  induction xs generalizing s with
  | nil => rfl
  | cons x rest ih => apply ih

theorem attempts_cons (x : Action σ α) (rest : List (Action σ α)) (s : σ) :
  attempts (x :: rest) s
    = ⟨.ok (), (attempts rest (x s).state).state,
      (x s).events ++ (attempts rest (x s).state).events⟩
  := by
  rw [← attempts_result rest (x s).state]
  rfl

/-- The actions of two lists, one list after the other. -/
theorem attempts_append (xs ys : List (Action σ α)) (s : σ) :
  attempts (xs ++ ys) s
    = ⟨.ok (), (attempts ys (attempts xs s).state).state,
      (attempts xs s).events ++ (attempts ys (attempts xs s).state).events⟩
  := by
  induction xs generalizing s with
  | nil =>
    cases ys with
    | nil => rfl
    | cons y ys =>
      rw [List.nil_append, attempts_cons]
      rfl
  | cons x xs ih =>
    rw [List.cons_append, attempts_cons, attempts_cons, ih, List.append_assoc]

theorem attempts_singleton (x : Action σ α) (s : σ) :
  attempts [x] s = ⟨.ok (), (x s).state, (x s).events⟩
  := by
  rw [attempts_cons]
  change (⟨_, _, (x s).events ++ []⟩ : Outcome σ Unit) = _
  rw [List.append_nil]
  rfl

end Compendium.Action
