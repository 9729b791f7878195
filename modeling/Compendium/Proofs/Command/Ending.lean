import Compendium.Proofs.Command.Setup
import Compendium.Proofs.Scan.Delivered

/-!
# What ends a run while the document is written

A file and the console take all that is written to them.  So once a run has opened its document
there, a configuration that cannot be used is the only thing that ends it, and the exit code is
the same for each of its faults.
-/

namespace Compendium.Command

/-! ### Failures of configurations -/

section

variable {d : Disk} {r : Resolver} {directory : Path} {failure : Failure} {task : Option String}

/-- A configuration of a directory that is malformed gives the exit code one. -/
theorem exitCode_of_loadLocal
    (h : (Resolver.loadLocal d directory r).result = .error failure) :
  Complaint.exitCode ⟨task, failure⟩ = 1
  := by
  obtain ⟨path, cause, -, -, -, rfl⟩ := Resolver.loadLocal_eq_error_iff.mp h
  rfl

/-- So does one of which a pattern or a rule does not compile. -/
theorem exitCode_of_contribution
    (h : (Resolver.contribution d directory r).result = .error failure) :
  Complaint.exitCode ⟨task, failure⟩ = 1
  := by
  rcases Resolver.contribution_eq_error_iff.mp h with hlocal | ⟨loaded, -, -, hown⟩
  · apply exitCode_of_loadLocal hlocal
  · apply exitCode_of_content (ofContent_of_ofConfig hown)

end

/-! ### Writing through a buffer -/

/-- Whether an action that writes through a buffer fails because of configurations only. -/
def Blames {α : Type} (x : Action Scan α) : Prop :=
  ∀ s, s.sink.Buffered →
    x.Meets s (fun _ s' => s'.sink.Buffered)
      (fun failure _ => ∀ task, Complaint.exitCode ⟨task, failure⟩ = 1)

section

variable {α β : Type}

theorem blames_pure (a : α) :
  Blames (pure a : Action Scan α)
  := fun _ hs => hs

theorem blames_tell (event : Event) :
  Blames (Action.tell event : Action Scan Unit)
  := fun _ hs => hs

theorem blames_reporting (f : Report → Report) :
  Blames (Scan.reporting f)
  := fun _ hs => hs

/-- Actions one after the other blame configurations only if each of them does. -/
theorem blames_bind {x : Action Scan α} {f : α → Action Scan β} (hx : Blames x)
    (hf : ∀ a, Blames (f a)) :
  Blames (x >>= f)
  := by
  intro s hs
  rw [Action.meets_bind]
  apply (hx s hs).mono (fun a s' hs' => hf a s' hs') fun _ _ h => h

/-- To look at the disk as it is seen through the buffer does not fail. -/
theorem blames_seeing {d : Disk} {f : Disk → Action Scan α} (hf : ∀ seen, Blames (f seen)) :
  Blames (Scan.seenDisk d >>= f)
  := fun s hs => hf _ s hs

/-- The context in a directory cannot be found only because of the configuration there. -/
theorem blames_extending (seen : Disk) (above : Context) (path : Path) :
  Blames (Scan.resolving (Resolver.extend seen above path))
  := by
  intro s hs
  simp only [Scan.resolving, Resolver.extend, Action.meets_within, Action.meets_bind,
    Action.meets_pure]
  rw [Action.meets_iff]
  use fun _ _ => hs
  intro _ hfailure _
  apply exitCode_of_contribution hfailure

/-- A block is written through the buffer without a fault. -/
theorem blames_includeContent (path relative : Path) (context : Context) (content : Content) :
  Blames (Scan.includeContent path relative context content)
  := by
  intro s hs
  apply (Scan.meets_includeContent path relative context content).mono
  · rintro how s' ⟨-, k, hk, rfl⟩
    apply hs.of_outlet hk.outlet
  · rintro failure s' ⟨hbound, -⟩
    apply absurd hs.boundless hbound

/-- A file that cannot be read is reported, and does not end the scan. -/
theorem blames_includeFile (d : Disk) (path relative : Path) (context : Context) :
  Blames (Scan.includeFile d path relative context)
  := by
  apply blames_seeing
  intro seen
  refine blames_bind (fun _ hs => hs) fun s => ?_
  split
  · apply blames_bind (blames_tell _) fun _ => blames_reporting _
  · cases seen.read path with
    | error fault => apply blames_bind (blames_tell _) fun _ => blames_reporting _
    | ok bytes => apply blames_bind (blames_includeContent _ _ _ _) fun _ => blames_reporting _

/-- So every part of a scan blames configurations only. -/
theorem blames_closed (d : Disk) :
  Scan.Closed d (fun _ => True) (fun _ => Blames)
  := by
  constructor
  · intro α a
    apply blames_pure
  · intro α β x f hx hf
    apply blames_bind hx hf
  · intro event _
    apply blames_tell
  · intro α f hf
    apply blames_seeing fun seen => hf seen trivial
  · intro seen above path _
    apply blames_extending
  · intro path
    apply blames_reporting
  · intro failure
    apply blames_reporting
  · apply blames_includeFile

theorem blames_beginning :
  Blames (Scan.sinking Sink.begin)
  := by
  intro s hs
  rw [Scan.sinking, Action.meets_within, Sink.begin, Action.meets_bind, Action.meets_state]
  apply (Sink.meets_writeBytes s.sink _).mono
  · intro _ k hk
    apply hs.of_outlet hk.outlet
  · rintro failure k ⟨hbound, -⟩
    apply absurd hs.boundless hbound

/-- What is left in the buffer is taken by the outlet. -/
theorem blames_finishing :
  Blames (Scan.sinking Sink.finish)
  := by
  intro s hs
  apply (Scan.meets_finishing s).mono
  · rintro _ s' ⟨k, hk, rfl⟩
    apply hs.of_outlet hk.outlet
  · rintro failure s' ⟨⟨limit, ho⟩, -⟩
    apply absurd ho (hs limit true)

/-- An aggregation that writes through a buffer fails because of configurations only, which all
give the same exit code. -/
theorem blames_aggregate (d : Disk) (scope : Scope) (paths : List Path)
    (excluded : Option Path) :
  Blames (Scan.aggregate d scope paths excluded)
  := by
  have hfound (root : Path) : Blames (Action.ofExcept (scope.contextAt root)) := by
    intro s hs
    cases hcontext : scope.contextAt root with
    | ok above => apply hs
    | error failure =>
      intro _
      apply exitCode_of_content (Scope.ofContent_of_contextAt hcontext)
  apply (blames_closed d).aggregate hfound _ blames_beginning blames_finishing
  · intro f hf s hs
    apply hf s.report s hs
  · intro key s hs
    apply hs

end

end Compendium.Command
