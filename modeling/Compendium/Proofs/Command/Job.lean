import Mathlib.Logic.Basic
import Compendium.Command

/-!
# What parts of a run end with

`Job.outcome` is what a part of a run ends with and the state it leaves.  `Job.Meets` says what
holds of both; for a part that is put together from others it comes down to those.
-/

namespace Compendium.Command

/-- The state in which a run begins. -/
def beginning (d : Disk) (home : Option Path) (s : Settings) : Work :=
  ⟨d, .empty (Resolver.defaultDirs (Disk.pathOf d.here) home), none,
    .settings s :: if home.isSome then [] else [.event .noHome]⟩

namespace Job

variable {α β σ : Type} {w : Work}

/-- What a part of a run ends with, and the state it leaves. -/
def outcome (x : Job α) (w : Work) : Except Complaint α × Work := (ExceptT.run x).run w

/-- Whether `done` holds where a part of a run ends with a value, and `failed` where it ends
with a complaint. -/
def Meets (x : Job α) (w : Work) (done : α → Work → Prop) (failed : Complaint → Work → Prop) :
    Prop :=
  match x.outcome w with
  | (.ok a, w') => done a w'
  | (.error complaint, w') => failed complaint w'

/-- A part of a run is followed by the next one if it ends with a value. -/
theorem outcome_bind (x : Job α) (f : α → Job β) (w : Work) :
  (x >>= f).outcome w =
    match x.outcome w with
    | (.ok a, w') => (f a).outcome w'
    | (.error complaint, w') => (.error complaint, w')
  := by
  rw [outcome, ExceptT.run_bind, StateT.run_bind]
  rcases hx : x.outcome w with ⟨complaint | a, w'⟩ <;> rw [outcome] at hx <;> rw [hx] <;> rfl

/-- A part of a run meets whatever follows from what it meets. -/
theorem Meets.mono {x : Job α} {done done' : α → Work → Prop}
    {failed failed' : Complaint → Work → Prop} (h : x.Meets w done failed)
    (hd : ∀ a t, done a t → done' a t) (hf : ∀ c t, failed c t → failed' c t) :
  x.Meets w done' failed'
  := by
  rw [Meets] at h ⊢
  rcases hx : x.outcome w with ⟨complaint | a, w'⟩
  · rw [hx] at h
    apply hf complaint w' h
  · rw [hx] at h
    apply hd a w' h

/-- What a part of a run meets holds of what it ends with. -/
theorem Meets.of_outcome {x : Job α} {done : α → Work → Prop}
    {failed : Complaint → Work → Prop} (h : x.Meets w done failed) {w' : Work} :
  (∀ a, x.outcome w = (.ok a, w') → done a w')
    ∧ ∀ complaint, x.outcome w = (.error complaint, w') → failed complaint w'
  := by
  constructor
  · intro a hx
    rwa [Meets, hx] at h
  · intro complaint hx
    rwa [Meets, hx] at h

/-! ### Single parts -/

section

variable {done : α → Work → Prop} {failed : Complaint → Work → Prop}

@[simp]
theorem meets_pure {a : α} :
  (pure a : Job α).Meets w done failed ↔ done a w
  := Iff.rfl

@[simp]
theorem meets_get {done : Work → Work → Prop} :
  (get : Job Work).Meets w done failed ↔ done w w
  := Iff.rfl

/-- A change of the state does not fail. -/
@[simp]
theorem meets_modify {f : Work → Work} {done : Unit → Work → Prop} :
  (modify f : Job Unit).Meets w done failed ↔ done () (f w)
  := Iff.rfl

@[simp]
theorem meets_throw {complaint : Complaint} :
  (throw complaint : Job α).Meets w done failed ↔ failed complaint w
  := Iff.rfl

@[simp]
theorem meets_tell {n : Notice} {done : Unit → Work → Prop} :
  (tell n).Meets w done failed ↔ done () { w with notices := w.notices ++ [n] }
  := Iff.rfl

/-- A failure is complained about, and the state is kept. -/
theorem meets_orComplain {task : Option String} {found : Except Failure α} :
  (orComplain task found).Meets w done failed
    ↔ (∀ a, found = .ok a → done a w)
      ∧ ∀ failure, found = .error failure → failed ⟨task, failure⟩ w
  := by
  cases found with
  | ok a =>
    change done a w ↔ _
    simp
  | error failure =>
    change failed ⟨task, failure⟩ w ↔ _
    simp

/-- What parts meet one after the other comes down to the last of them. -/
@[simp]
theorem meets_bind {x : Job α} {f : α → Job β} {done : β → Work → Prop} :
  (x >>= f).Meets w done failed
    ↔ x.Meets w (fun a t => (f a).Meets t done failed) failed
  := by
  rw [Meets, Meets, outcome_bind]
  rcases x.outcome w with ⟨ended | ended, w'⟩ <;> rfl

/-- What an action meets that a run performs, the events of which it tells. -/
theorem meets_perform {task : String} {part : Work → σ} {replace : Work → σ → Work}
    {x : Action σ α} :
  (perform task part replace x).Meets w done failed
    ↔ (∀ a, (x (part w)).result = .ok a →
        done a { replace w (x (part w)).state with
          notices := w.notices ++ (x (part w)).events.map .event })
      ∧ ∀ failure, (x (part w)).result = .error failure →
        failed ⟨some task, failure⟩ { replace w (x (part w)).state with
          notices := w.notices ++ (x (part w)).events.map .event }
  := by
  rw [perform, meets_bind, meets_get]
  dsimp only
  rw [meets_bind, meets_modify, meets_orComplain]

end

end Job

/-! ### A whole run -/

/-- A run with settings is concluded from what the aggregation ends with. -/
theorem runSettings_eq (d : Disk) (home : Option Path) (s : Settings) :
  runSettings d home s = conclude s ((aggregate home s).outcome (beginning d home s)).1
    ((aggregate home s).outcome (beginning d home s)).2
  := rfl

theorem run_eq {arguments : List String} {s : Settings} (h : Settings.read arguments = .run s)
    (d : Disk) (home : Option Path) :
  run d home arguments = runSettings d home s
  := by
  rw [run, h]

end Compendium.Command
