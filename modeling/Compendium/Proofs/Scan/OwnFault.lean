import Compendium.Proofs.Scan.Closure
import Compendium.Proofs.Scan.Selection

/-!
# What can end an aggregation

The patterns and rules of a scope are compiled when it is made.  An aggregation in this scope can
still end early, but only because the document cannot be written, or because a directory that is
scanned has a configuration of its own that cannot be used.
-/

namespace Compendium

namespace Resolver

/-- What becomes of a resolver when it is asked for what directories contribute, on any of the
disks that are seen on the way. -/
inductive AskedAlong (sees : Disk → Prop) (r : Resolver) : Resolver → Prop
  | start : AskedAlong sees r r
  | ask {seen : Disk} {r' : Resolver} (hsees : sees seen) (directory : Path)
    (h : AskedAlong sees r r') : AskedAlong sees r (contribution seen directory r').state

/-- Whether a failure is that of a configuration that a directory has of its own.  The text of
the configuration is faulty, or a pattern or a rule of one that is not global is. -/
inductive OwnFault (sees : Disk → Prop) (r : Resolver) (failure : Failure) : Prop
  | text {seen : Disk} {directory : Path} {r' : Resolver} (hsees : sees seen)
    (hr : AskedAlong sees r r') (h : (loadLocal seen directory r').result = .error failure)
  | content {seen : Disk} {directory : Path} {r' : Resolver} {loaded : LoadedConfig}
    (hsees : sees seen) (hr : AskedAlong sees r r')
    (h : (loadLocal seen directory r').result = .ok (some loaded))
    (hown : (r.globalKey.any fun key => key.same (keyOf seen loaded.path)) = false)
    (hfault : Context.ofConfig loaded.config directory loaded.origin = .error failure)

section

variable {d : Disk} {r r' : Resolver} {sees : Disk → Prop}

theorem AskedAlong.globalKey_eq (h : AskedAlong sees r r') :
  r'.globalKey = r.globalKey
  := by
  induction h with
  | start => rfl
  | ask hsees directory h ih =>
    rw [contribution_state, globalKey_loadLocal, ih]

theorem AskedAlong.ownFault (h : AskedAlong sees r r') (hsees : sees d) {directory : Path}
    {failure : Failure} (hfailure : (contribution d directory r').result = .error failure) :
  OwnFault sees r failure
  := by
  rcases contribution_eq_error_iff.mp hfailure with hlocal | ⟨loaded, hlocal, hown, hbad⟩
  · exact .text hsees h hlocal
  · rw [isGlobal, globalKey_loadLocal, h.globalKey_eq] at hown
    exact .content hsees h hlocal hown hbad

end

end Resolver

namespace Scan

/-- The disks that are seen while a document goes to an outlet. -/
def SeenThrough (d : Disk) (o : Outlet) (seen : Disk) : Prop :=
  ∃ k : Sink, k.outlet = o ∧ seen = k.seenDisk d

/-- Whether a scan has come from a resolver by asking for what directories contribute. -/
structure CameFrom (d : Disk) (k : Sink) (r : Resolver) (s : Scan) : Prop where
  outlet : s.sink.outlet = k.outlet
  target : s.sink.target = k.target
  asked : Resolver.AskedAlong (SeenThrough d k.outlet) r s.resolver

/-- Whether a failure is one of writing, or that of a configuration that a directory has of its
own. -/
def EndsBy (d : Disk) (k : Sink) (r : Resolver) (failure : Failure) : Prop :=
  (∃ fault, failure = .writing k.target fault)
    ∨ Resolver.OwnFault (SeenThrough d k.outlet) r failure

/-- Whether an action fails for such reasons only. -/
def Risks {α : Type} (d : Disk) (k : Sink) (r : Resolver) (x : Action Scan α) : Prop :=
  ∀ s, CameFrom d k r s →
    x.Meets s (fun _ s' => CameFrom d k r s')
      (fun failure s' => CameFrom d k r s' ∧ EndsBy d k r failure)

section

variable {α β : Type} {d : Disk} {k : Sink} {r : Resolver}

/-- What the sink takes does not matter to where a scan came from. -/
theorem CameFrom.took {s : Scan} (hs : CameFrom d k r s) {bytes : List UInt8} {k' : Sink}
    (hk : Sink.Took s.sink bytes k') :
  CameFrom d k r { s with sink := k' }
  := ⟨hk.outlet.trans hs.outlet, hk.target.trans hs.target, hs.asked⟩

theorem risks_pure (a : α) :
  Risks d k r (pure a : Action Scan α)
  := fun _ hs => hs

theorem risks_tell (event : Event) :
  Risks d k r (Action.tell event : Action Scan Unit)
  := fun _ hs => hs

/-- Actions one after the other risk no more than each of them does. -/
theorem risks_bind {x : Action Scan α} {f : α → Action Scan β} (hx : Risks d k r x)
    (hf : ∀ a, Risks d k r (f a)) :
  Risks d k r (x >>= f)
  := by
  intro s hs
  rw [Action.meets_bind]
  apply (hx s hs).mono (fun a s' hs' => hf a s' hs') fun _ _ h => h

theorem risks_seeing {f : Disk → Action Scan α}
    (hf : ∀ seen, SeenThrough d k.outlet seen → Risks d k r (f seen)) :
  Risks d k r (seenDisk d >>= f)
  := by
  intro s hs
  rw [Action.meets_bind, meets_seenDisk]
  apply hf _ ⟨s.sink, hs.outlet, rfl⟩ s hs

/-- A directory may have a configuration of its own that cannot be used. -/
theorem risks_extending {seen : Disk} (hseen : SeenThrough d k.outlet seen) (above : Context)
    (path : Path) :
  Risks d k r (resolving (Resolver.extend seen above path))
  := by
  intro s hs
  simp only [resolving, Resolver.extend, Action.meets_within, Action.meets_bind,
    Action.meets_pure]
  rw [Action.meets_iff]
  constructor
  · intro _ _
    use hs.outlet, hs.target
    apply hs.asked.ask hseen path
  · intro failure hfailure
    use ⟨hs.outlet, hs.target, hs.asked.ask hseen path⟩
    right
    apply hs.asked.ownFault hseen hfailure

theorem risks_reporting (f : Report → Report) :
  Risks d k r (reporting f)
  := fun _ hs => ⟨hs.outlet, hs.target, hs.asked⟩

/-- To write a block can fail in the outlet only. -/
theorem risks_includeContent (path relative : Path) (context : Context) (content : Content) :
  Risks d k r (includeContent path relative context content)
  := by
  intro s hs
  apply (meets_includeContent path relative context content).mono
  · rintro how s' ⟨-, k', hk, rfl⟩
    apply hs.took hk
  · rintro failure s' ⟨-, rfl, torn, -, -, k', hk, rfl⟩
    use hs.took hk
    left
    use .full
    rw [hs.target]

theorem risks_includeFile (path relative : Path) (context : Context) :
  Risks d k r (includeFile d path relative context)
  := by
  apply risks_seeing
  intro seen _
  refine risks_bind (fun _ hs => hs) fun s => ?_
  split
  · apply risks_bind (risks_tell _) fun _ => risks_reporting _
  · cases seen.read path with
    | error fault => apply risks_bind (risks_tell _) fun _ => risks_reporting _
    | ok bytes => apply risks_bind (risks_includeContent _ _ _ _) fun _ => risks_reporting _

/-- So every part of a scan risks no more than that. -/
theorem risks_closed (d : Disk) (k : Sink) (r : Resolver) :
  Closed d (SeenThrough d k.outlet) (fun _ => Risks d k r)
  := by
  constructor
  · intro α a
    apply risks_pure
  · intro α β x f hx hf
    apply risks_bind hx hf
  · intro event _
    apply risks_tell
  · intro α f hf
    apply risks_seeing hf
  · intro seen above path hseen
    apply risks_extending hseen
  · intro path
    apply risks_reporting
  · intro failure
    apply risks_reporting
  · apply risks_includeFile

theorem risks_beginning :
  Risks d k r (sinking Sink.begin)
  := by
  intro s hs
  rw [sinking, Action.meets_within, Sink.begin, Action.meets_bind, Action.meets_state]
  apply (Sink.meets_writeBytes s.sink _).mono
  · intro _ k' hk
    apply hs.took hk
  · rintro failure k' ⟨-, rfl, torn, -, -, hk⟩
    use hs.took hk
    left
    use .full
    rw [hs.target]

theorem risks_finishing :
  Risks d k r (sinking Sink.finish)
  := by
  intro s hs
  rw [sinking, Action.meets_within, Action.meets_iff]
  constructor
  · intro _ hok
    apply hs.took ((Sink.meets_finish s.sink).of_ok hok)
  · intro failure herror
    use hs.took ((Sink.meets_finish s.sink).of_error herror), .inl ⟨.flushFailed, ?_⟩
    rw [← hs.target]
    cases ho : s.sink.outlet with
    | memory limit flushFails =>
      cases flushFails with
      | true => simpa [Sink.finish, ho, eq_comm] using herror
      | false => simp [Sink.finish, ho] at herror
    | file location => simp [Sink.finish, ho] at herror
    | console => simp [Sink.finish, ho] at herror

/-- If a scope has a context at every root, an aggregation in it ends early for no other
reasons. -/
theorem risks_aggregate {scope : Scope}
    (hscope : ∀ root, ∃ above, scope.contextAt root = .ok above) (paths : List Path)
    (excluded : Option Path) :
  Risks d k r (aggregate d scope paths excluded)
  := by
  have hfound (root : Path) : Risks d k r (Action.ofExcept (scope.contextAt root)) := by
    obtain ⟨above, habove⟩ := hscope root
    rw [habove]
    apply risks_pure above
  apply (risks_closed d k r).aggregate hfound _ risks_beginning risks_finishing
  · intro f hf s hs
    apply hf s.report s hs
  · intro key s hs
    use hs.outlet, hs.target, hs.asked

end

end Scan

end Compendium
