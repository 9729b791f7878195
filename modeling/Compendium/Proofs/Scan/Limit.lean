import Compendium.Proofs.Scan.Lockstep

/-!
# Memories with a limit

A run into a memory that takes a limited number of bytes goes on as the same run into a memory
without limit, up to the write that does not fit.  There it fails, with the memory filled by the
beginning of what the other run writes.  So no byte is lost, doubled or out of its place, and
none is written after the failure.
-/

namespace Compendium.Scan

/-- The scan with a memory for its sink that takes no more than `limit` bytes in all. -/
def limited (limit : Nat) (flushFails : Bool) (s : Scan) : Scan :=
  { s with sink := { s.sink with outlet := .memory (some limit) flushFails } }

/-- How a run into a limited memory ends, as seen from the run into an unlimited memory that
starts at `s` with what the limit has room for.  As long as the limit has room for what is
written, they do the same. -/
structure Curtailed {α : Type} (limit : Nat) (flushFails : Bool) (s : Scan)
    (free tight : Outcome Scan α) : Prop where
  outlet : free.state.sink.outlet = .memory none flushFails
  target : free.state.sink.target = s.sink.target
  grows : s.sink.accepted <+: free.state.sink.accepted
  fits : free.state.sink.accepted.length ≤ limit →
    tight = ⟨free.result, limited limit flushFails free.state, free.events⟩
  full : limit < free.state.sink.accepted.length →
    tight.result = .error (.writing s.sink.target .full)
      ∧ tight.state.sink.outlet = .memory (some limit) flushFails
      ∧ tight.state.sink.accepted = free.state.sink.accepted.take limit

/-- Whether a limit curtails an action, wherever it stands. -/
def Curtails {α : Type} (x : Action Scan α) : Prop :=
  ∀ limit flushFails (s : Scan), s.sink.outlet = .memory none flushFails →
    s.sink.accepted.length ≤ limit →
      Curtailed limit flushFails s (x s) (x (limited limit flushFails s))

/-- Whether an action does the same, whatever the sink is. -/
def Blind {α : Type} (x : Action Scan α) : Prop :=
  ∀ (s : Scan) (k : Sink),
    x { s with sink := k } = ⟨(x s).result, { (x s).state with sink := k }, (x s).events⟩

section

variable {α β : Type} {d : Disk}

/-! ### Actions that write nothing -/

theorem curtails_of_blind {x : Action Scan α} (hx : Blind x) :
  Curtails x
  := by
  intro limit flushFails s houtlet hroom
  have hsink : (x s).state.sink = s.sink := congrArg (·.state.sink) (hx s s.sink)
  constructor
  · rw [hsink, houtlet]
  · rw [hsink]
  · simp only [hsink, List.prefix_refl]
  · intro _
    rw [limited, limited, hsink]
    apply hx
  · intro hfull
    rw [hsink] at hfull
    omega

theorem curtails_pure (a : α) :
  Curtails (pure a : Action Scan α)
  := curtails_of_blind fun _ _ => rfl

theorem curtails_tell (event : Event) :
  Curtails (Action.tell event : Action Scan Unit)
  := curtails_of_blind fun _ _ => rfl

theorem curtails_ofExcept (found : Except Failure α) :
  Curtails (Action.ofExcept found : Action Scan α)
  := curtails_of_blind fun _ _ => rfl

theorem curtails_resolving (x : Action Resolver α) :
  Curtails (resolving x)
  := curtails_of_blind fun _ _ => rfl

theorem curtails_reporting (f : Report → Report) :
  Curtails (reporting f)
  := curtails_of_blind fun _ _ => rfl

theorem curtails_filtering (context : Context) (path : Path) (lines : List String) :
  Curtails (filtering context path lines)
  := curtails_of_blind fun _ _ => rfl

/-! ### Actions put together -/

/-- Where the first of two actions overflows the memory, the second is not begun. -/
theorem curtails_bind {x : Action Scan α} {f : α → Action Scan β} (hx : Curtails x)
    (hf : ∀ a, Curtails (f a)) :
  Curtails (x >>= f)
  := by
  intro limit flushFails s houtlet hroom
  have hfirst := hx limit flushFails s houtlet hroom
  cases hresult : (x s).result with
  | error failure =>
    rw [Action.bind_of_error hresult]
    use hfirst.outlet, hfirst.target, hfirst.grows
    · intro hfits
      have htight := hfirst.fits hfits
      have herror : (x (limited limit flushFails s)).result = .error failure := by
        rw [htight, hresult]
      rw [Action.bind_of_error herror, htight]
    · intro hfull
      obtain ⟨herror, hafter⟩ := hfirst.full hfull
      rw [Action.bind_of_error herror]
      constructor
      · rfl
      · apply hafter
  | ok a =>
    rw [Action.bind_of_ok hresult]
    by_cases hfits : (x s).state.sink.accepted.length ≤ limit
    · have hsecond := hf a limit flushFails (x s).state hfirst.outlet hfits
      have htight := hfirst.fits hfits
      have hok : (x (limited limit flushFails s)).result = .ok a := by
        rw [htight, hresult]
      rw [Action.bind_of_ok hok, htight]
      use hsecond.outlet, hsecond.target.trans hfirst.target, hfirst.grows.trans hsecond.grows
      · intro hfits'
        rw [hsecond.fits hfits']
      · intro hfull
        rw [← hfirst.target]
        apply hsecond.full hfull
    · -- What the run without limit writes from here on is behind what the limit has room for.
      have hlt : limit < (x s).state.sink.accepted.length := Nat.lt_of_not_le hfits
      obtain ⟨herror, houtlet', haccepted⟩ := hfirst.full hlt
      have hsecond := hf a _ flushFails (x s).state hfirst.outlet (Nat.le_refl _)
      obtain ⟨further, hfurther⟩ := hsecond.grows
      rw [Action.bind_of_error herror]
      use hsecond.outlet, hsecond.target.trans hfirst.target, hfirst.grows.trans hsecond.grows
      · intro hfits'
        apply absurd (Nat.le_trans hsecond.grows.length_le hfits') hfits
      · intro _
        use rfl, houtlet'
        rw [haccepted, ← hfurther, List.take_append_of_le_length (Nat.le_of_lt hlt)]

/-- An action that is chosen by what is the same for every sink. -/
theorem curtails_asking {f : Scan → Action Scan α} (hblind : ∀ s k, f { s with sink := k } = f s)
    (hf : ∀ s, Curtails (f s)) :
  Curtails (Action.state >>= f)
  := by
  intro limit flushFails s houtlet hroom
  have hsame : f (limited limit flushFails s) = f s := hblind s _
  rw [Action.state_bind, Action.state_bind, hsame]
  apply hf s limit flushFails s houtlet hroom

/-- A memory leaves the disk as it is. -/
theorem curtails_seeing {f : Disk → Action Scan α} (hf : Curtails (f d)) :
  Curtails (seenDisk d >>= f)
  := by
  intro limit flushFails s houtlet hroom
  have hseen : s.sink.seenDisk d = d := by rw [Sink.seenDisk, houtlet]
  change Curtailed limit flushFails s (f (s.sink.seenDisk d) s) (f d (limited limit flushFails s))
  rw [hseen]
  apply hf limit flushFails s houtlet hroom

/-! ### Writing -/

/-- Bytes that do not fit are cut off where the limit is. -/
theorem curtails_writing (bytes : List UInt8) :
  Curtails (sinking (Sink.writeBytes bytes))
  := by
  intro limit flushFails s houtlet hroom
  have hfree : sinking (Sink.writeBytes bytes) s
      = ⟨.ok (), { s with sink := { s.sink with accepted := s.sink.accepted ++ bytes } }, []⟩ := by
    rw [sinking, Action.within, Sink.writeBytes, houtlet]
    simp only [Sink.fill, List.take_length]
  have htight : sinking (Sink.writeBytes bytes) (limited limit flushFails s)
      = ⟨if limit - s.sink.accepted.length < bytes.length
          then .error (.writing s.sink.target .full) else .ok (),
        limited limit flushFails { s with sink := { s.sink with
          accepted := s.sink.accepted ++ bytes.take (limit - s.sink.accepted.length) } }, []⟩ := rfl
  rw [hfree, htight]
  use houtlet, rfl, List.prefix_append _ _
  · intro hfits
    rw [List.length_append] at hfits
    rw [if_neg (by omega), List.take_of_length_le (by omega)]
  · intro hfull
    rw [List.length_append] at hfull
    rw [if_pos (by omega)]
    use rfl, rfl
    change _ ++ _ = (s.sink.accepted ++ bytes).take limit
    rw [List.take_append, List.take_of_length_le hroom]

theorem curtails_includeContent (path relative : Path) (context : Context) (content : Content) :
  Curtails (includeContent path relative context content)
  := by
  cases content with
  | binary size =>
    apply curtails_bind (curtails_tell _)
    intro _
    apply curtails_bind (curtails_writing _) fun _ => curtails_pure _
  | text text =>
    apply curtails_bind (curtails_tell _)
    intro _
    apply curtails_bind (curtails_filtering _ _ _)
    intro left
    apply curtails_bind (curtails_writing _) fun _ => curtails_pure _

theorem curtails_includeFile (path relative : Path) (context : Context) :
  Curtails (includeFile d path relative context)
  := by
  apply curtails_seeing
  apply curtails_asking (fun _ _ => rfl)
  intro s
  split
  · apply curtails_bind (curtails_tell _) fun _ => curtails_reporting _
  · cases d.read path with
    | error fault => apply curtails_bind (curtails_tell _) fun _ => curtails_reporting _
    | ok bytes =>
      apply curtails_bind (curtails_includeContent _ _ _ _) fun _ => curtails_reporting _

/-- A memory that fails when it is flushed does so whatever its limit is. -/
theorem curtails_finishing :
  Curtails (sinking Sink.finish)
  := by
  intro limit flushFails s houtlet hroom
  have hfree : sinking Sink.finish s
      = ⟨if flushFails then .error (.writing s.sink.target .flushFailed) else .ok (), s, []⟩ := by
    rw [sinking, Action.within, Sink.finish, houtlet]
    cases flushFails <;> rfl
  have htight : sinking Sink.finish (limited limit flushFails s)
      = ⟨if flushFails then .error (.writing s.sink.target .flushFailed) else .ok (),
        limited limit flushFails s, []⟩ := by
    cases flushFails <;> rfl
  rw [hfree, htight]
  use houtlet, rfl, List.prefix_refl _
  · intro _
    rfl
  · intro hfull
    apply absurd hroom (Nat.not_le_of_lt hfull)

/-! ### Whole runs -/

/-- Wherever a scan goes, a limit curtails it. -/
theorem curtails_closed (d : Disk) :
  Closed d (· = d) (fun _ => Curtails)
  := by
  constructor
  · apply curtails_pure
  · apply curtails_bind
  · intro event _
    apply curtails_tell
  · intro α f hf
    apply curtails_seeing (hf d rfl)
  · intro seen above path _
    apply curtails_resolving
  · intro path
    apply curtails_reporting
  · intro failure
    apply curtails_reporting
  · apply curtails_includeFile

theorem curtails_beginning :
  Curtails (sinking Sink.begin)
  := by
  intro limit flushFails s houtlet hroom
  have hbegin (k : Sink) :
      Sink.begin k = Sink.writeBytes (Text.bytesOf (Document.header k.generator)) k := by
    rw [Sink.begin, Action.state_bind, Sink.write]
  have hwriting (s : Scan) : sinking Sink.begin s
      = sinking (Sink.writeBytes (Text.bytesOf (Document.header s.sink.generator))) s := by
    rw [sinking, sinking, Action.within, Action.within, hbegin]
  rw [hwriting, hwriting]
  apply curtails_writing _ limit flushFails s houtlet hroom

theorem curtails_aggregate (scope : Scope) (paths : List Path) (excluded : Option Path) :
  Curtails (aggregate d scope paths excluded)
  := by
  apply (curtails_closed d).aggregate (fun _ => curtails_ofExcept _) _ curtails_beginning
    curtails_finishing
  · intro f hf
    apply curtails_asking (fun _ _ => rfl) fun s => hf s.report
  · intro _
    apply curtails_of_blind fun _ _ => rfl

end

/-- An aggregation into a memory that takes `limit` bytes in all writes the first `limit` bytes
of what the same aggregation writes into a memory without limit, be this one that succeeds or
fails.  If that is no more than the limit, both end in the same way and have told the same.
Otherwise the limited one fails to write. -/
theorem aggregate_limited (d : Disk) (scope : Scope) (paths : List Path) (excluded : Option Path)
    (r : Resolver) (keys : List Path) (limit : Nat) (flushFails : Bool) (target : Path)
    (generator : String) :
  let free := aggregate d scope paths excluded
    (intoMemory r keys none flushFails target generator)
  let tight := aggregate d scope paths excluded
    (intoMemory r keys (some limit) flushFails target generator)
  tight.state.sink.written = free.state.sink.written.take limit
    ∧ (free.state.sink.written.length ≤ limit →
      tight = ⟨free.result, limited limit flushFails free.state, free.events⟩)
    ∧ (limit < free.state.sink.written.length → tight.result = .error (.writing target .full))
  := by
  intro free tight
  have hrun : Curtailed limit flushFails (intoMemory r keys none flushFails target generator)
      free tight := by
    apply curtails_aggregate scope paths excluded limit flushFails
      (intoMemory r keys none flushFails target generator) rfl (Nat.zero_le _)
  have hwritten : free.state.sink.written = free.state.sink.accepted := by
    rw [Sink.written, hrun.outlet]
  rw [hwritten]
  use ?_, hrun.fits, fun hfull => (hrun.full hfull).1
  by_cases hfits : free.state.sink.accepted.length ≤ limit
  · rw [hrun.fits hfits, List.take_of_length_le hfits]
    rfl
  · obtain ⟨-, houtlet, haccepted⟩ := hrun.full (Nat.lt_of_not_le hfits)
    rw [Sink.written, houtlet, haccepted]

/-! ### Runs that succeed -/

/-- An aggregation into a memory that is full does not get its header written. -/
theorem exists_error_of_full {d : Disk} {scope : Scope} {paths : List Path}
    {excluded : Option Path} {s : Scan} (h : s.sink.Full) :
  ∃ failure, (aggregate d scope paths excluded s).result = .error failure
  := by
  have hheader : Text.bytesOf (Document.header s.sink.generator) ≠ [] := by
    apply Text.bytesOf_ne_nil
    unfold Document.header
    simp
  have hbegin : (sinking Sink.begin s).result = .error (.writing s.sink.target .full) := by
    rw [sinking, Action.within, Sink.begin, Action.state_bind, Sink.write, h.writeBytes_eq hheader]
  use .writing s.sink.target .full
  cases excluded with
  | none => rw [aggregate_none, Action.bind_of_error hbegin]
  | some path => rw [aggregate_some, Action.bind_of_error hbegin]

/-- The sink with a memory that has no limit. -/
def unbounded (k : Sink) (flushFails : Bool) : Sink :=
  { k with outlet := .memory none flushFails }

section

variable {k : Sink} {limit : Nat} {flushFails : Bool}
  (ho : k.outlet = .memory (some limit) flushFails)

include ho

theorem written_unbounded :
  (unbounded k flushFails).written = k.written
  := (Sink.written_of_memory rfl).trans (Sink.written_of_memory ho).symm

/-- A limit that has room for what the memory holds curtails an aggregation into it. -/
theorem curtailed_aggregate (hroom : k.accepted.length ≤ limit) (d : Disk) (scope : Scope)
    (paths : List Path) (excluded : Option Path) (r : Resolver) :
  Curtailed limit flushFails (start r (unbounded k flushFails))
    (aggregate d scope paths excluded (start r (unbounded k flushFails)))
    (aggregate d scope paths excluded (start r k))
  := by
  have hstart : limited limit flushFails (start r (unbounded k flushFails)) = start r k := by
    cases k
    cases ho
    rfl
  rw [← hstart]
  apply curtails_aggregate scope paths excluded limit flushFails _ rfl hroom

end

/-- A run that succeeds within a limit has done what it does without limit. -/
theorem Curtailed.of_ok {α : Type} {limit : Nat} {flushFails : Bool} {s : Scan}
    {free tight : Outcome Scan α} {a : α} (h : Curtailed limit flushFails s free tight)
    (hok : tight.result = .ok a) :
  free.state.sink.written.length ≤ limit ∧ free.result = .ok a
    ∧ tight.state.sink.written = free.state.sink.written
  := by
  rw [Sink.written_of_memory h.outlet]
  by_cases hfits : free.state.sink.accepted.length ≤ limit
  · rw [h.fits hfits] at hok ⊢
    exact ⟨hfits, hok, rfl⟩
  · obtain ⟨herror, -⟩ := h.full (Nat.lt_of_not_le hfits)
    rw [herror] at hok
    cases hok

/-- A run whose writes fit does the same within the limit. -/
theorem Curtailed.of_fits {α : Type} {limit : Nat} {flushFails : Bool} {s : Scan}
    {free tight : Outcome Scan α} (h : Curtailed limit flushFails s free tight)
    (hfits : free.state.sink.written.length ≤ limit) :
  tight.result = free.result ∧ tight.state.sink.written = free.state.sink.written
  := by
  rw [Sink.written_of_memory h.outlet] at hfits ⊢
  rw [h.fits hfits]
  constructor
  · rfl
  · rfl

end Compendium.Scan
