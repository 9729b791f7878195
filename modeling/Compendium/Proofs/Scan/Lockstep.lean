import Mathlib.Data.List.Induction
import Compendium.Proofs.Aggregate
import Compendium.Proofs.Context
import Compendium.Proofs.Scan.Closure
import Compendium.Proofs.Text.Encoding

/-!
# Report and document in lockstep

A scan puts a file into its report right after the block of the file has been written.  So
whatever has been scanned, and wherever scans have stopped, the document is made of the blocks
of the files in the report.  When the memory that it goes to is full, the beginning of one more
block may follow, and from then on nothing changes.
-/

namespace Compendium

/-! ### A memory that is full -/

namespace Sink

/-- Whether a memory has no room left. -/
def Full (k : Sink) : Prop :=
  ∃ limit flushFails, k.outlet = .memory (some limit) flushFails ∧ limit ≤ k.accepted.length

/-- A memory that refuses bytes is full afterwards. -/
theorem full_of_writeBytes {k : Sink} {bytes : List UInt8} {failure : Failure}
    (h : (writeBytes bytes k).result = .error failure) :
  (writeBytes bytes k).state.Full
  := by
  rw [writeBytes] at h ⊢
  cases ho : k.outlet with
  | file location => simp [ho] at h
  | console => simp [ho] at h
  | memory limit flushFails =>
    cases limit with
    | none => simp [ho] at h
    | some limit =>
      have hroom : limit - k.accepted.length < bytes.length := by
        by_contra hroom
        simp [ho, hroom] at h
      use limit, flushFails, ho
      simp only [fill, List.length_append, List.length_take]
      omega

/-- A full memory takes nothing. -/
theorem Full.writeBytes_eq {k : Sink} (h : k.Full) {bytes : List UInt8} (hne : bytes ≠ []) :
  writeBytes bytes k = ⟨.error (.writing k.target .full), k, []⟩
  := by
  obtain ⟨limit, flushFails, ho, hle⟩ := h
  have hroom : limit - k.accepted.length = 0 := by omega
  have hlength : 0 < bytes.length := List.length_pos_iff.mpr hne
  have hfill : k.fill 0 bytes = k := by
    cases k
    simp [fill]
  rw [writeBytes, ho]
  simp only [hroom, if_pos hlength, hfill]

theorem writeBytes_events (bytes : List UInt8) (k : Sink) :
  (writeBytes bytes k).events = []
  := by
  rw [writeBytes]
  cases k.outlet with
  | memory limit flushFails => cases limit <;> rfl
  | file location => rfl
  | console => rfl

end Sink

namespace Scan

/-! ### Actions that write nothing -/

/-- Whether an outcome is a failure to write. -/
def Refused {σ α : Type} (outcome : Outcome σ α) : Prop :=
  ∃ target cause, outcome.result = .error (.writing target cause)

/-- An action is calm if it begins no file and does not fail to write. -/
def Calm {σ α : Type} (x : Action σ α) : Prop :=
  ∀ s, (x s).events.filterMap Event.begun? = [] ∧ ¬ Refused (x s)

section

variable {σ α β : Type}

theorem not_refused_of_ok {outcome : Outcome σ α} {a : α} (h : outcome.result = .ok a) :
  ¬ Refused outcome
  := by
  rintro ⟨target, cause, herror⟩
  simp [h] at herror

theorem calm_pure (a : α) :
  Calm (pure a : Action σ α)
  := fun _ => ⟨rfl, not_refused_of_ok rfl⟩

theorem calm_state :
  Calm (Action.state : Action σ σ)
  := fun _ => ⟨rfl, not_refused_of_ok rfl⟩

theorem calm_change (f : σ → σ) :
  Calm (Action.change f)
  := fun _ => ⟨rfl, not_refused_of_ok rfl⟩

theorem calm_tell (event : Event) (h : event.begun? = none) :
  Calm (Action.tell event : Action σ Unit)
  := by
  intro s
  constructor
  · simp [Action.tell, h]
  · apply not_refused_of_ok rfl

theorem calm_ofExcept {found : Except Failure α}
    (h : ∀ target cause, found ≠ .error (.writing target cause)) :
  Calm (Action.ofExcept found : Action σ α)
  := by
  intro s
  use rfl
  rintro ⟨target, cause, herror⟩
  apply h target cause herror

theorem calm_bind {x : Action σ α} {f : α → Action σ β} (hx : Calm x) (hf : ∀ a, Calm (f a)) :
  Calm (x >>= f)
  := by
  intro s
  obtain ⟨hbegun, hfree⟩ := hx s
  cases hresult : (x s).result with
  | error failure =>
    rw [Action.bind_of_error hresult]
    use hbegun
    rintro ⟨target, cause, herror⟩
    obtain rfl := Except.error.inj herror
    apply hfree ⟨target, cause, hresult⟩
  | ok a =>
    obtain ⟨hbegun', hfree'⟩ := hf a (x s).state
    rw [Action.bind_of_ok hresult]
    use by rw [List.filterMap_append, hbegun, hbegun', List.append_nil], hfree'

end

section

variable {d : Disk} {path directory : Path}

theorem calm_load :
  Calm (Resolver.load d path : Action Resolver Config)
  := by
  apply calm_bind (calm_tell _ rfl)
  intro _
  cases d.read path with
  | error fault =>
    intro s
    use rfl
    rintro ⟨target, cause, herror⟩
    cases herror
  | ok bytes =>
    apply calm_ofExcept
    intro target cause
    rw [Resolver.readConfig]
    cases Text.ofBytes? bytes with
    | none => simp
    | some text => cases hread : Config.read text <;> simp [hread, Except.mapError]

theorem calm_loadOnce :
  Calm (Resolver.loadOnce d path)
  := by
  apply calm_bind calm_state
  intro r
  dsimp only
  cases r.lookup? (Resolver.keyOf d path) with
  | some known => apply calm_pure
  | none =>
    apply calm_bind calm_load
    intro config
    apply calm_bind (calm_tell _ rfl)
    intro _
    apply calm_bind (calm_change _)
    intro _
    apply calm_pure

theorem calm_orUnreadable {x : Action Resolver LoadedConfig} (hx : Calm x) :
  Calm (Resolver.orUnreadable x)
  := by
  intro r
  obtain ⟨hbegun, hfree⟩ := hx r
  rw [Resolver.orUnreadable]
  split
  · use by rw [List.filterMap_append, hbegun]; rfl, not_refused_of_ok rfl
  · rename_i failure hresult
    use hbegun
    rintro ⟨target, cause, herror⟩
    obtain rfl := Except.error.inj herror
    apply hfree ⟨target, cause, hresult⟩
  · use hbegun
    apply not_refused_of_ok rfl

theorem calm_loadLocal :
  Calm (Resolver.loadLocal d directory)
  := by
  rw [Resolver.loadLocal]
  cases Resolver.findConfig? d directory with
  | none => apply calm_pure
  | some path =>
    apply calm_bind (calm_tell _ rfl)
    intro _
    apply calm_orUnreadable calm_loadOnce

/-- A configuration that cannot be used is no failure to write. -/
theorem ofConfig_ne_writing (config : Config) (base : Path) (origin : String) (target : Path)
    (cause : AccessFault) :
  Context.ofConfig config base origin ≠ .error (.writing target cause)
  := by
  intro h
  cases ofContent_of_ofConfig h

/-- To extend a context by what a directory contributes is calm. -/
theorem calm_extend (above : Context) :
  Calm (Resolver.extend d above directory)
  := by
  apply calm_bind
  · apply calm_bind calm_loadLocal
    intro found
    cases found with
    | none => apply calm_pure
    | some loaded =>
      apply calm_bind calm_state
      intro r
      split
      · apply calm_bind (calm_tell _ rfl)
        intro _
        apply calm_pure
      · apply calm_ofExcept
        apply ofConfig_ne_writing
  · intro own
    apply calm_pure

end

/-! ### Including a file -/

/-- A file is drawn from a disk if it is placed with what could be read of it there. -/
def Drawn (d : Disk) (p : Placed) : Prop :=
  ∃ relative context bytes, d.read p.path = .ok bytes
    ∧ p.how = inclusionOf relative context (.ofBytes bytes)
    ∧ p.block = blockOf p.path relative context (.ofBytes bytes)

theorem Drawn.block_ne {d : Disk} {p : Placed} (h : Drawn d p) :
  Text.bytesOf p.block ≠ []
  := by
  obtain ⟨relative, context, bytes, -, -, hblock⟩ := h
  apply Text.bytesOf_ne_nil
  rw [hblock]
  cases Content.ofBytes bytes <;>
    simp [blockOf, Document.binaryBlock, Document.textBlock, Document.separator]

section

variable {d : Disk} {s : Scan}

/-- Rules tell of no file that is begun. -/
theorem begun?_ruleEvents (path : Path) (rules : List Rule) (lines : List String) :
  (ruleEvents path rules lines).filterMap Event.begun? = []
  := by
  rw [ruleEvents, List.filterMap_flatMap, List.flatMap_eq_nil_iff]
  rintro ⟨rule, given, kept⟩ -
  dsimp only
  split <;> rfl

theorem sinking_return {α : Type} (x : Action Sink Unit) (a : α) :
  (do
    sinking x
    return a : Action Scan α) s
    = ⟨(x s.sink).result.map fun _ => a, { s with sink := (x s.sink).state }, (x s.sink).events⟩
  := by
  cases hresult : (x s.sink).result with
  | error failure =>
    rw [Action.bind_of_error (x := sinking x) hresult]
    rfl
  | ok =>
    rw [Action.bind_of_ok (x := sinking x) hresult]
    rw [← List.append_nil (x s.sink).events]
    rfl

theorem filtering_bind {α : Type} (context : Context) (path : Path) (lines : List String)
    (f : Filtered → Action Scan α) :
  (filtering context path lines >>= f) s
    = ⟨(f (context.rules.filter path lines) s).result,
      (f (context.rules.filter path lines) s).state,
      ruleEvents path (context.rules.applicable path) lines
        ++ (f (context.rules.filter path lines) s).events⟩
  := by
  rw [← List.append_nil (ruleEvents path (context.rules.applicable path) lines)]
  rfl

/-- To include content is to tell of the file and then to write its block. -/
theorem includeContent_eq (path relative : Path) (context : Context) (content : Content) :
  ∃ events : List Event, events.filterMap Event.begun? = [path]
    ∧ includeContent path relative context content s
      = ⟨(Sink.writeBytes (Text.bytesOf (blockOf path relative context content)) s.sink).result.map
          fun _ => inclusionOf relative context content,
        { s with sink :=
          (Sink.writeBytes (Text.bytesOf (blockOf path relative context content)) s.sink).state },
        events⟩
  := by
  cases content with
  | binary size =>
    use [.includingBinary path size], rfl
    rw [includeContent, Action.tell_bind, sinking_return, Sink.writeBinary, Sink.write,
      Sink.writeBytes_events]
    rfl
  | text text =>
    use .includingText path
      :: ruleEvents relative (context.rules.applicable relative) (Text.linesOf text)
    constructor
    · rw [List.filterMap_cons, begun?_ruleEvents]
      rfl
    · rw [includeContent, Action.tell_bind, filtering_bind, sinking_return, Sink.writeText,
        Sink.write, Sink.writeBytes_events, List.append_nil]
      rfl

theorem includeFile_of_excluded {path relative : Path} {context : Context}
    (h : s.isExcluded (s.sink.seenDisk d) path = true) :
  includeFile d path relative context s
    = ⟨.ok (), { s with report := s.report.skip path }, [.ownDocument path]⟩
  := by
  change (if s.isExcluded (s.sink.seenDisk d) path then _ else _ : Action Scan Unit) s = _
  rw [if_pos h]
  rfl

theorem includeFile_of_unread {path relative : Path} {context : Context} {fault : AccessFault}
    (h : s.isExcluded (s.sink.seenDisk d) path = false)
    (hread : (s.sink.seenDisk d).read path = .error fault) :
  includeFile d path relative context s
    = ⟨.ok (), { s with report := s.report.note (.reading path fault) },
      [.noted (.reading path fault)]⟩
  := by
  change (if s.isExcluded (s.sink.seenDisk d) path then _ else _ : Action Scan Unit) s = _
  rw [if_neg (by simp [h]), hread]
  rfl

theorem includeFile_of_read {path relative : Path} {context : Context} {bytes : List UInt8}
    (h : s.isExcluded (s.sink.seenDisk d) path = false)
    (hread : (s.sink.seenDisk d).read path = .ok bytes) :
  includeFile d path relative context s = (do
    let how ← includeContent path relative context (.ofBytes bytes)
    reporting (·.add path how)) s
  := by
  change (if s.isExcluded (s.sink.seenDisk d) path then _ else _ : Action Scan Unit) s = _
  rw [if_neg (by simp [h]), hread]

/-- A file is kept out, cannot be read, or has its block written. -/
theorem includeFile_cases (d : Disk) (path relative : Path) (context : Context) (s : Scan) :
  includeFile d path relative context s
      = ⟨.ok (), { s with report := s.report.skip path }, [.ownDocument path]⟩
    ∨ (∃ failure, includeFile d path relative context s
      = ⟨.ok (), { s with report := s.report.note failure }, [.noted failure]⟩)
    ∨ ∃ p : Placed, p.path = path ∧ Drawn (s.sink.seenDisk d) p
      ∧ ∃ events : List Event, events.filterMap Event.begun? = [path]
        ∧ ((Sink.writeBytes (Text.bytesOf p.block) s.sink).result = .ok ()
            ∧ includeFile d path relative context s = ⟨.ok (), { s with
              sink := (Sink.writeBytes (Text.bytesOf p.block) s.sink).state
              report := s.report.add path p.how }, events⟩
          ∨ ∃ failure, (Sink.writeBytes (Text.bytesOf p.block) s.sink).result = .error failure
            ∧ includeFile d path relative context s = ⟨.error failure, { s with
              sink := (Sink.writeBytes (Text.bytesOf p.block) s.sink).state }, events⟩)
  := by
  cases hexcluded : s.isExcluded (s.sink.seenDisk d) path with
  | true =>
    left
    apply includeFile_of_excluded hexcluded
  | false =>
    right
    cases hread : (s.sink.seenDisk d).read path with
    | error fault => exact .inl ⟨_, includeFile_of_unread hexcluded hread⟩
    | ok bytes =>
      right
      rw [includeFile_of_read hexcluded hread]
      use ⟨path, inclusionOf relative context (.ofBytes bytes),
        blockOf path relative context (.ofBytes bytes)⟩, rfl
      use ⟨relative, context, bytes, hread, rfl, rfl⟩
      obtain ⟨events, hbegun, hcontent⟩ :=
        includeContent_eq (s := s) path relative context (.ofBytes bytes)
      use events, hbegun
      dsimp only
      cases hwrite : (Sink.writeBytes (Text.bytesOf (blockOf path relative context
        (.ofBytes bytes))) s.sink).result with
      | error failure =>
        right
        use failure, rfl
        have hresult : (includeContent path relative context (.ofBytes bytes) s).result
            = .error failure := by
          rw [hcontent, hwrite]
          rfl
        rw [Action.bind_of_error hresult, hcontent]
      | ok =>
        left
        use rfl
        have hresult : (includeContent path relative context (.ofBytes bytes) s).result
            = .ok (inclusionOf relative context (.ofBytes bytes)) := by
          rw [hcontent, hwrite]
          rfl
        rw [Action.bind_of_ok hresult, hcontent]
        simp only [reporting, Action.change, List.append_nil]

end

/-! ### What a call does -/

/-- How far a run has got: the files `placed` are in the report and their blocks in the document,
the bytes `torn` follow, and the files `rest` were begun after them. -/
structure Advanced (origin : Placed → Prop) (s s' : Scan) (events : List Event)
    (placed rest : List Placed) (torn : List UInt8) : Prop where
  included : s'.report.included = s.report.included ++ filesOf placed
  sink : Sink.Took s.sink (blocksOf placed ++ torn) s'.sink
  begun : events.filterMap Event.begun? = (placed ++ rest).map Placed.path
  origin : ∀ p ∈ placed ++ rest, origin p

/-- Whether the block of a file is left torn, the memory being full. -/
structure Tears {α : Type} (s : Scan) (outcome : Outcome Scan α) (p : Placed)
    (torn : List UInt8) : Prop where
  result : outcome.result = .error (.writing s.sink.target .full)
  begins : torn <+: Text.bytesOf p.block
  ne : torn ≠ Text.bytesOf p.block
  full : outcome.state.sink.Full

/-- Whether an action puts files into the report and the document at once, and fails to write
only where it tears a block. -/
def Advances {α : Type} (d : Disk) (x : Action Scan α) : Prop :=
  ∀ s : Scan, s.sink.OffDisk →
    (¬ Refused (x s) ∧ ∃ placed, Advanced (Drawn d) s (x s).state (x s).events placed [] [])
      ∨ ∃ placed p torn, Tears s (x s) p torn
        ∧ Advanced (Drawn d) s (x s).state (x s).events placed [p] torn

section

variable {d : Disk} {s : Scan} {origin : Placed → Prop}

theorem Advanced.refl :
  Advanced origin s s [] [] [] []
  := by
  constructor
  · apply (List.append_nil _).symm
  · apply Sink.Took.refl
  · rfl
  · simp

theorem filesOf_append (placed placed' : List Placed) :
  filesOf (placed ++ placed') = filesOf placed ++ filesOf placed'
  := List.map_append

theorem blocksOf_append (placed placed' : List Placed) :
  blocksOf (placed ++ placed') = blocksOf placed ++ blocksOf placed'
  := List.flatMap_append

theorem Advanced.trans {s' s'' : Scan} {events events' : List Event}
    {placed placed' rest : List Placed} {torn : List UInt8}
    (h : Advanced origin s s' events placed [] [])
    (h' : Advanced origin s' s'' events' placed' rest torn) :
  Advanced origin s s'' (events ++ events') (placed ++ placed') rest torn
  := by
  constructor
  · rw [h'.included, h.included, filesOf_append, List.append_assoc]
  · have htook := h.sink.trans h'.sink
    rwa [List.append_nil, ← List.append_assoc, ← blocksOf_append] at htook
  · have hbegun := h.begun
    rw [List.append_nil] at hbegun
    rw [List.filterMap_append, hbegun, h'.begun]
    simp
  · intro p hp
    rw [List.append_assoc, List.mem_append] at hp
    rcases hp with hp | hp
    · apply h.origin p (List.mem_append_left _ hp)
    · apply h'.origin p hp

theorem Advanced.mono {s' : Scan} {events : List Event} {placed rest : List Placed}
    {torn : List UInt8} {origin' : Placed → Prop}
    (h : Advanced origin s s' events placed rest torn) (horigin : ∀ p, origin p → origin' p) :
  Advanced origin' s s' events placed rest torn
  := ⟨h.included, h.sink, h.begun, fun p hp => horigin p (h.origin p hp)⟩

/-- What is calm and leaves the sink and the files of the report as they are advances. -/
theorem advances_of_calm {α : Type} {x : Action Scan α} (hx : Calm x)
    (hsink : ∀ s, (x s).state.sink = s.sink)
    (hincluded : ∀ s, (x s).state.report.included = s.report.included) :
  Advances d x
  := by
  intro s _
  obtain ⟨hbegun, hfree⟩ := hx s
  left
  use hfree, []
  constructor
  · rw [hincluded]
    apply (List.append_nil _).symm
  · rw [hsink]
    apply Sink.Took.refl
  · apply hbegun
  · simp

theorem advances_bind {α β : Type} {x : Action Scan α} {f : α → Action Scan β}
    (hx : Advances d x) (hf : ∀ a, Advances d (f a)) :
  Advances d (x >>= f)
  := by
  intro s hs
  rcases hx s hs with ⟨hfree, placed, hplaced⟩ | ⟨placed, p, torn, htears, hplaced⟩
  · cases hresult : (x s).result with
    | error failure =>
      left
      rw [Action.bind_of_error hresult]
      constructor
      · rintro ⟨target, cause, herror⟩
        apply hfree
        obtain rfl := Except.error.inj herror
        use target, cause, hresult
      · exact ⟨placed, hplaced⟩
    | ok a =>
      rw [Action.bind_of_ok hresult]
      rcases hf a (x s).state (hs.of_outlet hplaced.sink.outlet) with
        ⟨hfree', placed', hplaced'⟩ | ⟨placed', p, torn, htears, hplaced'⟩
      · left
        exact ⟨hfree', _, hplaced.trans hplaced'⟩
      · right
        refine ⟨_, p, torn, ?_, hplaced.trans hplaced'⟩
        refine ⟨?_, htears.begins, htears.ne, htears.full⟩
        rw [htears.result, hplaced.sink.target]
  · right
    rw [Action.bind_of_error htears.result]
    exact ⟨placed, p, torn, ⟨rfl, htears.begins, htears.ne, htears.full⟩, hplaced⟩

/-- A file is begun, and its block is written or torn. -/
theorem advances_includeFile (path relative : Path) (context : Context) :
  Advances d (includeFile d path relative context)
  := by
  intro s hs
  rcases includeFile_cases d path relative context s with
    hrun | ⟨failure, hrun⟩ | ⟨p, rfl, hdrawn, events, hbegun, hrun⟩
  · left
    rw [hrun]
    use not_refused_of_ok rfl, [], (List.append_nil _).symm, Sink.Took.refl _, rfl, by simp
  · left
    rw [hrun]
    use not_refused_of_ok rfl, [], (List.append_nil _).symm, Sink.Took.refl _, rfl, by simp
  · have hwrite := Sink.meets_writeBytes s.sink (Text.bytesOf p.block)
    rw [hs.seenDisk_eq] at hdrawn
    rcases hrun with ⟨hresult, hrun⟩ | ⟨failure, hresult, hrun⟩
    · rw [hrun]
      left
      use not_refused_of_ok rfl, [p]
      constructor
      · rfl
      · simpa [blocksOf] using hwrite.of_ok hresult
      · simpa using hbegun
      · simpa using hdrawn
    · rw [hrun]
      obtain ⟨-, rfl, torn, hprefix, hne, htook⟩ := hwrite.of_error hresult
      right
      use [], p, torn, ⟨rfl, hprefix, hne, Sink.full_of_writeBytes hresult⟩
      constructor
      · apply (List.append_nil _).symm
      · apply htook
      · simpa using hbegun
      · simpa using hdrawn

/-- Wherever a scan goes, report and document advance at once. -/
theorem advances_closed (d : Disk) :
  Closed d (fun _ => True) (fun _ => Advances d)
  := by
  constructor
  · intro α a
    apply advances_of_calm (calm_pure a) (fun _ => rfl) fun _ => rfl
  · apply advances_bind
  · intro event hevent
    apply advances_of_calm (calm_tell event hevent) (fun _ => rfl) fun _ => rfl
  · intro α f hf s
    apply hf _ trivial s
  · intro seen above path _
    have hcalm : Calm (resolving (Resolver.extend seen above path)) := fun s =>
      calm_extend above s.resolver
    apply advances_of_calm hcalm (fun _ => rfl) fun _ => rfl
  · intro path
    exact advances_of_calm (calm_change _) (fun _ => rfl) fun _ => rfl
  · intro failure
    exact advances_of_calm (calm_change _) (fun _ => rfl) fun _ => rfl
  · apply advances_includeFile

/-! ### When the memory is full -/

/-- Whether an action leaves a full memory, and the files of the report, as they are. -/
def Stalls {α : Type} (x : Action Scan α) : Prop :=
  ∀ s : Scan, s.sink.Full →
    (x s).state.sink = s.sink ∧ (x s).state.report.included = s.report.included

theorem stalls_bind {α β : Type} {x : Action Scan α} {f : α → Action Scan β} (hx : Stalls x)
    (hf : ∀ a, Stalls (f a)) :
  Stalls (x >>= f)
  := by
  intro s hs
  obtain ⟨hsink, hincluded⟩ := hx s hs
  cases hresult : (x s).result with
  | error failure =>
    rw [Action.bind_of_error hresult]
    use hsink, hincluded
  | ok a =>
    obtain ⟨hsink', hincluded'⟩ := hf a (x s).state (hsink ▸ hs)
    rw [Action.bind_of_ok hresult]
    use hsink'.trans hsink
    apply hincluded'.trans hincluded

/-- No block is empty, so that none gets into a full memory. -/
theorem stalls_includeFile (path relative : Path) (context : Context) :
  Stalls (includeFile d path relative context)
  := by
  intro s hs
  rcases includeFile_cases d path relative context s with
    hrun | ⟨failure, hrun⟩ | ⟨p, -, hdrawn, events, -, hrun⟩
  · rw [hrun]
    constructor
    · rfl
    · rfl
  · rw [hrun]
    constructor
    · rfl
    · rfl
  · have hwrite := hs.writeBytes_eq hdrawn.block_ne
    rcases hrun with ⟨hresult, -⟩ | ⟨failure, -, hrun⟩
    · simp [hwrite] at hresult
    · rw [hrun, hwrite]
      constructor
      · rfl
      · rfl

theorem stalls_closed (d : Disk) :
  Closed d (fun _ => True) (fun _ => Stalls)
  := by
  constructor
  · exact fun _ _ _ => ⟨rfl, rfl⟩
  · apply stalls_bind
  · intro _ _ _ _
    constructor
    · rfl
    · rfl
  · exact fun hf s => hf _ trivial s
  · intro _ _ _ _ _ _
    constructor
    · rfl
    · rfl
  · intro _ _ _
    constructor
    · rfl
    · rfl
  · intro _ _ _
    constructor
    · rfl
    · rfl
  · apply stalls_includeFile

end

/-! ### Calls one after the other -/

/-- A call of a scan, with the disk as it is then. -/
inductive Call where
  | directory (d : Disk) (root : Path) (above : Context)
  | file (d : Disk) (path : Path) (context : Context)

namespace Call

/-- The disk on which a call is made. -/
def disk : Call → Disk
  | .directory d _ _ => d
  | .file d _ _ => d

/-- Make a call. -/
def run : Call → Action Scan Unit
  | .directory d root above => Scan.directory d root above
  | .file d path context => Scan.file d path context

theorem advances (call : Call) :
  Advances call.disk call.run
  := by
  cases call with
  | directory d root above => apply (advances_closed d).directory
  | file d path context => apply (advances_closed d).file

theorem stalls (call : Call) :
  Stalls call.run
  := by
  cases call with
  | directory d root above => apply (stalls_closed d).directory
  | file d path context => apply (stalls_closed d).file

end Call

/-- Whether a file is drawn from the disk of one of some calls. -/
def DrawnIn (calls : List Call) (p : Placed) : Prop := ∃ call ∈ calls, Drawn call.disk p

/-- Make calls in turn, whatever each of them ends with. -/
def callAll (calls : List Call) : Action Scan Unit := Action.attempts (calls.map Call.run)

section

variable {s : Scan}

theorem callAll_concat (calls : List Call) (call : Call) (s : Scan) :
  callAll (calls ++ [call]) s
    = ⟨.ok (), (call.run (callAll calls s).state).state,
      (callAll calls s).events ++ (call.run (callAll calls s).state).events⟩
  := by
  rw [callAll, List.map_append, Action.attempts_append, List.map_singleton,
    Action.attempts_singleton]
  rfl

theorem DrawnIn.append_right {calls : List Call} {p : Placed} (h : DrawnIn calls p)
    (calls' : List Call) :
  DrawnIn (calls ++ calls') p
  := by
  obtain ⟨call, hcall, hdrawn⟩ := h
  exact ⟨call, List.mem_append_left _ hcall, hdrawn⟩

/-- Whether one of some calls has failed to write. -/
def HasFailed (s : Scan) (calls : List Call) : Prop :=
  ∃ before call, before ++ [call] <+: calls ∧ Refused (call.run (callAll before s).state)

theorem hasFailed_concat {calls : List Call} {call : Call} :
  HasFailed s (calls ++ [call])
    ↔ HasFailed s calls ∨ Refused (call.run (callAll calls s).state)
  := by
  constructor
  · rintro ⟨before, call', hprefix, hrefused⟩
    rcases List.prefix_concat_iff.mp hprefix with heq | hprefix
    · obtain ⟨rfl, rfl⟩ := List.append_singleton_inj.mp heq
      right
      apply hrefused
    · left
      use before, call'
  · rintro (⟨before, call', hprefix, hrefused⟩ | hrefused)
    · use before, call', hprefix.trans (List.prefix_append _ _)
    · exact ⟨calls, call, List.prefix_refl _, hrefused⟩

/-- Where files have been begun in vain, more of them are begun while report and document stay. -/
theorem Advanced.stall {calls : List Call} (call : Call) {placed rest : List Placed}
    {torn : List UInt8} (hs : s.sink.OffDisk)
    (h : Advanced (DrawnIn calls) s (callAll calls s).state (callAll calls s).events placed rest
      torn) (hfull : (callAll calls s).state.sink.Full) :
  ∃ more, Advanced (DrawnIn (calls ++ [call])) s (callAll (calls ++ [call]) s).state
    (callAll (calls ++ [call]) s).events placed (rest ++ more) torn
  := by
  obtain ⟨hsink, hincluded⟩ := call.stalls _ hfull
  have hmore : ∃ more, (call.run (callAll calls s).state).events.filterMap Event.begun?
      = List.map Placed.path more
      ∧ ∀ p ∈ more, Drawn call.disk p := by
    rcases call.advances _ (hs.of_outlet h.sink.outlet) with
      ⟨-, placed', h'⟩ | ⟨placed', p, torn', -, h'⟩
    · exact ⟨_, h'.begun, h'.origin⟩
    · exact ⟨_, h'.begun, h'.origin⟩
  obtain ⟨more, hbegun, hdrawn⟩ := hmore
  use more
  rw [callAll_concat]
  constructor
  · rw [hincluded, h.included]
  · rw [hsink]
    apply h.sink
  · rw [List.filterMap_append, h.begun, hbegun, ← List.append_assoc, List.map_append,
      List.map_append, List.map_append]
  · intro p hp
    rw [← List.append_assoc, List.mem_append] at hp
    rcases hp with hp | hp
    · apply (h.origin p hp).append_right _
    · use call, List.mem_append_right _ List.mem_cons_self
      apply hdrawn p hp

/-- Calls put files into the report and the document at once, up to the first that fails to
write.  That leaves a torn block behind, and no later call changes anything. -/
theorem callAll_advanced (hs : s.sink.OffDisk) (calls : List Call) :
  (¬ HasFailed s calls
      ∧ ∃ placed, Advanced (DrawnIn calls) s (callAll calls s).state (callAll calls s).events
        placed [] [])
    ∨ HasFailed s calls ∧ (callAll calls s).state.sink.Full
      ∧ ∃ placed p more torn,
        Advanced (DrawnIn calls) s (callAll calls s).state (callAll calls s).events placed
          (p :: more) torn
        ∧ torn <+: Text.bytesOf p.block ∧ torn ≠ Text.bytesOf p.block
  := by
  induction calls using List.reverseRecOn with
  | nil =>
    left
    constructor
    · rintro ⟨before, call, hprefix, -⟩
      simp at hprefix
    · exact ⟨[], Advanced.refl⟩
  | append_singleton calls call ih =>
    rw [hasFailed_concat]
    have hnew : ∀ p, Drawn call.disk p → DrawnIn (calls ++ [call]) p := fun p hp =>
      ⟨call, List.mem_append_right _ List.mem_cons_self, hp⟩
    rcases ih with ⟨hnot, placed, h⟩ | ⟨hfailed, hfull, placed, p, more, torn, h, hprefix, hne⟩
    · have hold := h.mono fun p hp => DrawnIn.append_right hp [call]
      rcases call.advances _ (hs.of_outlet h.sink.outlet) with
        ⟨hfree, placed', h'⟩ | ⟨placed', p, torn, htears, h'⟩
      · left
        use by simp [hnot, hfree], placed ++ placed'
        rw [callAll_concat]
        apply hold.trans (h'.mono hnew)
      · right
        rw [callAll_concat]
        use .inr ⟨_, _, htears.result⟩, htears.full, placed ++ placed', p, [], torn
        use hold.trans (h'.mono hnew), htears.begins, htears.ne
    · right
      obtain ⟨later, hlater⟩ := Advanced.stall call hs h hfull
      have hstill := (call.stalls _ hfull).1
      use .inl hfailed
      constructor
      · rw [callAll_concat]
        apply hstill ▸ hfull
      · use placed, p, more ++ later, torn, hlater, hprefix, hne

/-- Once a call has failed to write, nothing changes any more. -/
theorem callAll_stalls (hs : s.sink.OffDisk) {before calls : List Call} {call : Call}
    (hcalls : before ++ [call] <+: calls)
    (hrefused : Refused (call.run (callAll before s).state)) :
  (callAll calls s).state.sink = (call.run (callAll before s).state).state.sink
    ∧ (callAll calls s).state.report.included
      = (call.run (callAll before s).state).state.report.included
  := by
  obtain ⟨later, rfl⟩ := hcalls
  have hfull : (callAll (before ++ [call]) s).state.sink.Full := by
    rcases callAll_advanced hs (before ++ [call]) with ⟨hnot, -⟩ | ⟨-, hfull, -⟩
    · apply absurd (hasFailed_concat.mpr (.inr hrefused)) hnot
    · apply hfull
  have hstep : (callAll (before ++ [call]) s).state
      = (call.run (callAll before s).state).state := by rw [callAll_concat]
  rw [← hstep]
  induction later using List.reverseRecOn with
  | nil => rw [List.append_nil]; exact ⟨rfl, rfl⟩
  | append_singleton later last ih =>
    obtain ⟨hsink, hincluded⟩ := last.stalls _ (ih.1 ▸ hfull)
    rw [← List.append_assoc, callAll_concat]
    use hsink.trans ih.1
    apply hincluded.trans ih.2

end

/-- A scan into memory that has seen nothing. -/
def intoMemory (r : Resolver) (excluded : List Path) (limit : Option Nat) (flushFails : Bool)
    (target : Path) (generator : String) : Scan :=
  ⟨r, .empty (.memory limit flushFails) target generator, excluded, .empty⟩

/-- What holds after calls of a scan whose report and document have been empty. -/
structure InLockstep (s : Scan) (calls : List Call) : Prop where
  /-- The document is made of the blocks of the files in the report, in order.  If no call has
  failed to write, all files that were begun are there.  Otherwise what follows is the beginning
  of the block of the first file that is not. -/
  blocks : ∃ placed rest torn, (callAll calls s).state.report.included = filesOf placed
    ∧ (callAll calls s).state.sink.written = blocksOf placed ++ torn
    ∧ (callAll calls s).events.filterMap Event.begun? = (placed ++ rest).map Placed.path
    ∧ (∀ p ∈ placed ++ rest, DrawnIn calls p)
    ∧ (¬ HasFailed s calls ∧ rest = [] ∧ torn = []
      ∨ HasFailed s calls ∧ ∃ p more, rest = p :: more ∧ torn <+: Text.bytesOf p.block
        ∧ torn ≠ Text.bytesOf p.block)
  /-- Since the first call that has failed to write, neither the files of the report nor the
  document have changed. -/
  stays : ∀ before call, before ++ [call] <+: calls →
    Refused (call.run (callAll before s).state) →
      (callAll calls s).state.report.included
          = (call.run (callAll before s).state).state.report.included
        ∧ (callAll calls s).state.sink.written
          = (call.run (callAll before s).state).state.sink.written

/-- Whichever directories and files are scanned into memory, in whichever contexts and wherever
the scans stop, report and document are in lockstep. -/
theorem callAll_lockstep (r : Resolver) (excluded : List Path) (limit : Option Nat)
    (flushFails : Bool) (target : Path) (generator : String) (calls : List Call) :
  InLockstep (intoMemory r excluded limit flushFails target generator) calls
  := by
  have hs : (intoMemory r excluded limit flushFails target generator).sink.OffDisk :=
    Sink.offDisk_of_memory rfl
  constructor
  · rcases callAll_advanced hs calls with
      ⟨hnot, placed, h⟩ | ⟨hfailed, -, placed, p, more, torn, h, hprefix, hne⟩
    · use placed, [], [], h.included, h.sink.written, h.begun, h.origin, .inl ⟨hnot, rfl, rfl⟩
    · use placed, p :: more, torn, h.included, h.sink.written, h.begun, h.origin
      right
      use hfailed, p, more, rfl, hprefix, hne
  · intro before call hcalls hrefused
    obtain ⟨hsink, hincluded⟩ := callAll_stalls hs hcalls hrefused
    use hincluded
    rw [hsink]

end Scan

end Compendium
