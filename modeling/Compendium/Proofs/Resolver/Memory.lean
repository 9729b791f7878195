import Mathlib.Data.List.Induction
import Compendium.Proofs.Resolver.Local

/-!
# What a resolver remembers

A resolver may be asked for configurations again and again, in whichever way, while the disk is
changed between the requests.  A file that it has read once is remembered under the key that the
file had then, and no request takes back or replaces what is remembered.  So the first reading of
a file decides what every later request for it gives.
-/

namespace Compendium

/-- The configuration file that is read, where an event tells of one. -/
def Event.read? : Event → Option Path
  | .loading file => some file
  | _ => none

namespace Resolver

/-! ### Looking up -/

section

variable {r r' : Resolver} {key key' : Path}

theorem lookup?_congr (h : key.same key' = true) :
  r.lookup? key = r.lookup? key'
  := by
  simp only [lookup?, Path.same_congr h]

/-- What is remembered stays so when more is. -/
theorem lookup?_of_prefix {loaded : LoadedConfig} (h : r.loaded <+: r'.loaded)
    (hlookup : r.lookup? key = some loaded) :
  r'.lookup? key = some loaded
  := by
  obtain ⟨entry, hfind, rfl⟩ := Option.map_eq_some_iff.mp hlookup
  rw [lookup?, h.find?_eq_some hfind]
  rfl

theorem lookup?_of_loaded (h : r'.loaded = r.loaded) :
  r'.lookup? key = r.lookup? key
  := by
  rw [lookup?, lookup?, h]

/-- A new entry is found under its key. -/
theorem lookup?_concat {loaded : LoadedConfig} (hnone : r.lookup? key = none)
    (h : r'.loaded = r.loaded ++ [(key, loaded)]) :
  r'.lookup? key = some loaded
  := by
  have hfind := Option.map_eq_none_iff.mp hnone
  rw [lookup?, h, List.find?_append, hfind]
  simp [Path.same_refl]

end

/-! ### Asking for a file -/

/-- Whether a file can be read as a configuration. -/
def isReadable (d : Disk) (path : Path) : Bool :=
  match configIn d path with
  | .ok (some _) => true
  | _ => false

/-- The entry that is new when a resolver has been asked for a file: there is one if none is
remembered for the file and the file can be read. -/
def fresh? (r : Resolver) (d : Disk) (path : Path) : Option (Path × LoadedConfig) :=
  match r.lookup? (keyOf d path), configIn d path with
  | none, .ok (some config) => some (keyOf d path, ⟨path, config⟩)
  | _, _ => none

theorem fresh?_eq_some_iff {r : Resolver} {d : Disk} {path : Path} {entry : Path × LoadedConfig} :
  r.fresh? d path = some entry
    ↔ r.lookup? (keyOf d path) = none
      ∧ ∃ config, configIn d path = .ok (some config) ∧ entry = (keyOf d path, ⟨path, config⟩)
  := by
  rw [fresh?]
  cases r.lookup? (keyOf d path) with
  | some known => simp
  | none =>
    cases configIn d path with
    | error failure => simp
    | ok found => cases found <;> simp [eq_comm]

/-- What is read when a resolver is asked for a file: the file, unless it is remembered. -/
def unread (r : Resolver) (d : Disk) (path : Path) : List Path :=
  match r.lookup? (keyOf d path) with
  | some _ => []
  | none => [path]

/-- A new entry is what has been read with success. -/
theorem length_fresh? (r : Resolver) (d : Disk) (path : Path) :
  (r.fresh? d path).toList.length = ((r.unread d path).filter (isReadable d)).length
  := by
  rw [fresh?, unread]
  cases r.lookup? (keyOf d path) with
  | some known => rfl
  | none =>
    rw [List.filter_singleton, isReadable]
    cases configIn d path with
    | error failure => rfl
    | ok found => cases found <;> rfl

/-- What an outcome shows of a resolver that has been asked for a file, or for none. -/
structure Asked {α : Type} (d : Disk) (file? : Option Path) (r : Resolver)
    (outcome : Outcome Resolver α) : Prop where
  searchDirs : outcome.state.searchDirs = r.searchDirs
  loaded : outcome.state.loaded = r.loaded ++ (file?.bind (r.fresh? d)).toList
  read : outcome.events.filterMap Event.read?
    = file?.toList.flatMap (r.unread d)

/-- An action is quiet if it neither reads files nor changes what is remembered. -/
def Quiet {α : Type} (x : Action Resolver α) : Prop := ∀ d r, Asked d none r (x r)

section

variable {α β : Type} {d : Disk} {file? : Option Path} {r : Resolver}

theorem quiet_pure (a : α) :
  Quiet (pure a : Action Resolver α)
  := fun _ _ => ⟨rfl, (List.append_nil _).symm, rfl⟩

theorem quiet_ofExcept (found : Except Failure α) :
  Quiet (Action.ofExcept found)
  := fun _ _ => ⟨rfl, (List.append_nil _).symm, rfl⟩

theorem quiet_tell (event : Event) (h : event.read? = none) :
  Quiet (Action.tell event)
  := by
  intro d r
  constructor
  · rfl
  · apply (List.append_nil _).symm
  · simp [Action.tell, h]

theorem quiet_select (key : Path) :
  Quiet (Action.change fun r => { r with globalKey := some key })
  := fun _ _ => ⟨rfl, (List.append_nil _).symm, rfl⟩

/-- What quiet actions do afterwards does not show. -/
theorem Asked.bind {x : Action Resolver α} {f : α → Action Resolver β}
    (hx : Asked d file? r (x r)) (hf : ∀ a, Quiet (f a)) :
  Asked d file? r ((x >>= f) r)
  := by
  cases hresult : (x r).result with
  | error failure =>
    rw [Action.bind_of_error hresult]
    use hx.searchDirs, hx.loaded, hx.read
  | ok a =>
    have hquiet := hf a d (x r).state
    rw [Action.bind_of_ok hresult]
    constructor
    · apply hquiet.searchDirs.trans hx.searchDirs
    · rw [hquiet.loaded, hx.loaded]
      simp
    · rw [List.filterMap_append, hx.read, hquiet.read]
      simp

theorem Quiet.bind {x : Action Resolver α} {f : α → Action Resolver β} (hx : Quiet x)
    (hf : ∀ a, Quiet (f a)) :
  Quiet (x >>= f)
  := fun d r => (hx d r).bind hf

/-- Nor does what they do before. -/
theorem Asked.of_bind {x : Action Resolver α} {f : α → Action Resolver β} {a : α}
    (hx : x r = ⟨.ok a, r, (x r).events⟩) (hread : (x r).events.filterMap Event.read? = [])
    (hf : Asked d file? r (f a r)) :
  Asked d file? r ((x >>= f) r)
  := by
  have hresult : (x r).result = .ok a := by rw [hx]
  have hstate : (x r).state = r := by rw [hx]
  rw [Action.bind_of_ok hresult, hstate]
  use hf.searchDirs, hf.loaded
  rw [List.filterMap_append, hread, List.nil_append, hf.read]

/-! ### Ways of asking -/

/-- What is read from a configuration file. -/
def configAt (d : Disk) (path : Path) : Except Failure Config :=
  match d.read path with
  | .error fault => .error (.configAccess path fault)
  | .ok bytes => readConfig path bytes

theorem configAt_eq_ok_iff {path : Path} {config : Config} :
  configAt d path = .ok config ↔ configIn d path = .ok (some config)
  := by
  rw [configIn_eq_some_iff, configAt]
  cases d.read path <;> simp

/-- A resolver that remembers a file with what has been read from it. -/
def remembering (r : Resolver) (d : Disk) (path : Path) (config : Config) : Resolver :=
  { r with loaded := r.loaded ++ [(keyOf d path, ⟨path, config⟩)] }

theorem loadOnce_of_known {path : Path} {known : LoadedConfig}
    (h : r.lookup? (keyOf d path) = some known) :
  loadOnce d path r = ⟨.ok known, r, []⟩
  := by
  rw [loadOnce, Action.state_bind]
  simp only [h]
  rfl

/-- A file that is not remembered is read, and then is remembered if it can be used. -/
theorem loadOnce_of_unknown {path : Path} (h : r.lookup? (keyOf d path) = none) :
  loadOnce d path r = match configAt d path with
    | .error failure => ⟨.error failure, r, [.loading path]⟩
    | .ok config => ⟨.ok ⟨path, config⟩, r.remembering d path config,
        [.loading path, .parsed path config.patterns.length config.rules.length]⟩
  := by
  have hload : load d path r = ⟨configAt d path, r, [.loading path]⟩ := by
    rw [load, Action.tell_bind, configAt]
    cases d.read path <;> rfl
  rw [loadOnce, Action.state_bind]
  simp only [h]
  cases hconfig : configAt d path with
  | error failure =>
    rw [Action.bind_of_error (by rw [hload, hconfig]), hload]
  | ok config =>
    rw [Action.bind_of_ok (by rw [hload, hconfig]), hload]
    rfl

/-- A file is remembered, cannot be used, or is read. -/
theorem loadOnce_cases (d : Disk) (r : Resolver) (path : Path) :
  (∃ known, r.lookup? (keyOf d path) = some known ∧ loadOnce d path r = ⟨.ok known, r, []⟩)
    ∨ r.lookup? (keyOf d path) = none
      ∧ ((∃ failure, (∀ config, configIn d path ≠ .ok (some config))
          ∧ loadOnce d path r = ⟨.error failure, r, [.loading path]⟩)
        ∨ ∃ config, configIn d path = .ok (some config)
          ∧ loadOnce d path r = ⟨.ok ⟨path, config⟩,
            { r with loaded := r.loaded ++ [(keyOf d path, ⟨path, config⟩)] },
            [.loading path, .parsed path config.patterns.length config.rules.length]⟩)
  := by
  cases hlookup : r.lookup? (keyOf d path) with
  | some known =>
    left
    use known, rfl
    apply loadOnce_of_known hlookup
  | none =>
    right
    use rfl
    rw [loadOnce_of_unknown hlookup]
    cases hconfig : configAt d path with
    | error failure => exact .inl ⟨failure, by simp [← configAt_eq_ok_iff, hconfig], rfl⟩
    | ok config => exact .inr ⟨config, configAt_eq_ok_iff.mp hconfig, rfl⟩

theorem asked_loadOnce (path : Path) :
  Asked d (some path) r (loadOnce d path r)
  := by
  rcases loadOnce_cases d r path with
    ⟨known, hknown, hrun⟩ | ⟨hnone, ⟨failure, hin, hrun⟩ | ⟨config, hin, hrun⟩⟩
  · have hfresh : r.fresh? d path = none := by rw [fresh?, hknown]
    rw [hrun]
    constructor <;> simp [hfresh, unread, hknown]
  · have hfresh : r.fresh? d path = none := Option.eq_none_iff_forall_ne_some.mpr fun entry h => by
      obtain ⟨-, config, hconfig, -⟩ := fresh?_eq_some_iff.mp h
      apply hin config hconfig
    rw [hrun]
    constructor <;> simp [hfresh, unread, hnone, Event.read?]
  · have hfresh := fresh?_eq_some_iff.mpr ⟨hnone, config, hin, rfl⟩
    rw [hrun]
    constructor
    · rfl
    · simp [hfresh]
    · simp [unread, hnone, Event.read?]

/-- What is given is what is then remembered. -/
theorem loadOnce_eq_ok_iff {path : Path} {loaded : LoadedConfig} :
  (loadOnce d path r).result = .ok loaded
    ↔ (loadOnce d path r).state.lookup? (keyOf d path) = some loaded
  := by
  rcases loadOnce_cases d r path with
    ⟨known, hknown, hrun⟩ | ⟨hnone, ⟨failure, hin, hrun⟩ | ⟨config, hin, hrun⟩⟩
  · simp [hrun, hknown]
  · simp [hrun, hnone]
  · rw [hrun, lookup?_concat hnone rfl]
    simp

theorem asked_loadExplicit (path : Path) :
  Asked d (some path) r (loadExplicit d path r)
  := by
  apply (asked_loadOnce path).bind
  intro loaded
  apply Quiet.bind (quiet_select _)
  intro _
  apply quiet_pure

theorem asked_loadGlobal :
  Asked d (r.searchDirs.findSome? (findConfig? d)) r (loadGlobal d r)
  := by
  apply Asked.of_bind rfl rfl
  cases r.searchDirs.findSome? (findConfig? d) with
  | none =>
    apply Quiet.bind (quiet_tell (.globalMissing _) rfl)
    intro _
    apply quiet_pure
  | some path =>
    apply Asked.of_bind rfl rfl
    apply (asked_loadExplicit path).bind
    intro _
    apply quiet_pure

theorem Asked.orUnreadable {x : Action Resolver LoadedConfig} (hx : Asked d file? r (x r)) :
  Asked d file? r (orUnreadable x r)
  := by
  rw [Resolver.orUnreadable]
  split
  · use hx.searchDirs, hx.loaded
    rw [List.filterMap_append, hx.read]
    simp
    rfl
  · use hx.searchDirs, hx.loaded, hx.read
  · use hx.searchDirs, hx.loaded, hx.read

theorem asked_loadLocal (directory : Path) :
  Asked d (findConfig? d directory) r (loadLocal d directory r)
  := by
  rw [loadLocal]
  cases findConfig? d directory with
  | none => apply quiet_pure
  | some path =>
    apply Asked.of_bind rfl rfl
    apply (asked_loadOnce path).orUnreadable

theorem asked_extend (parent : Context) (directory : Path) :
  Asked d (findConfig? d directory) r (extend d parent directory r)
  := by
  apply Asked.bind
  · apply (asked_loadLocal directory).bind
    intro found
    cases found with
    | none => apply quiet_pure
    | some loaded =>
      intro d' r'
      apply Asked.of_bind rfl rfl
      split
      · apply Quiet.bind (quiet_tell (.localIsGlobal _) rfl)
        intro _
        apply quiet_pure
      · apply quiet_ofExcept
  · intro own
    apply quiet_pure

theorem loadExplicit_result (path : Path) :
  (loadExplicit d path r).result = (loadOnce d path r).result
  := by
  rw [loadExplicit]
  cases hresult : (loadOnce d path r).result with
  | error failure => rw [Action.bind_of_error hresult]
  | ok loaded =>
    rw [Action.bind_of_ok hresult]
    rfl

/-- The first configuration file that is found is loaded as the global one. -/
theorem loadGlobal_of_found {path : Path}
    (h : r.searchDirs.findSome? (findConfig? d) = some path) :
  loadGlobal d r = ⟨(loadExplicit d path r).result.map some, (loadExplicit d path r).state,
    .globalFound path :: (loadExplicit d path r).events⟩
  := by
  rw [loadGlobal, Action.bind_of_ok (x := Action.state) (s := r) rfl]
  simp only [Action.state, h, List.nil_append, Action.tell_bind]
  cases hresult : (loadExplicit d path r).result with
  | error failure =>
    rw [Action.bind_of_error hresult]
    rfl
  | ok loaded =>
    rw [Action.bind_of_ok hresult]
    simp [pure, Action.value, Except.map]

theorem loadGlobal_of_missing (h : r.searchDirs.findSome? (findConfig? d) = none) :
  loadGlobal d r = ⟨.ok none, r, [.globalMissing r.searchDirs]⟩
  := by
  rw [loadGlobal, Action.bind_of_ok (x := Action.state) (s := r) rfl]
  simp only [Action.state, h, List.nil_append, Action.tell_bind]
  rfl

theorem orUnreadable_state (x : Action Resolver LoadedConfig) :
  (Resolver.orUnreadable x r).state = (x r).state
  := by
  rw [Resolver.orUnreadable]
  split <;> rfl

/-- The configuration file of a directory is loaded. -/
theorem loadLocal_of_found {directory path : Path} (h : findConfig? d directory = some path) :
  loadLocal d directory r = ⟨(Resolver.orUnreadable (loadOnce d path) r).result,
    (loadOnce d path r).state,
    .localFound path directory :: (Resolver.orUnreadable (loadOnce d path) r).events⟩
  := by
  rw [loadLocal, h]
  dsimp only
  rw [Action.tell_bind, orUnreadable_state]

theorem loadLocal_of_missing {directory : Path} (h : findConfig? d directory = none) :
  loadLocal d directory r = ⟨.ok none, r, []⟩
  := by
  rw [loadLocal, h]
  rfl

theorem loadGlobal_result :
  (loadGlobal d r).result.toOption.join
    = (r.searchDirs.findSome? (findConfig? d)).bind fun path =>
      (loadOnce d path r).result.toOption
  := by
  cases hfind : r.searchDirs.findSome? (findConfig? d) with
  | none =>
    rw [loadGlobal_of_missing hfind]
    rfl
  | some path =>
    rw [loadGlobal_of_found hfind, Option.bind_some, loadExplicit_result]
    cases (loadOnce d path r).result <;> rfl

/-- A file that cannot be accessed gives as little as one that cannot be used. -/
theorem loadLocal_result (directory : Path) :
  (loadLocal d directory r).result.toOption.join
    = (findConfig? d directory).bind fun path => (loadOnce d path r).result.toOption
  := by
  cases hfind : findConfig? d directory with
  | none =>
    rw [loadLocal_of_missing hfind]
    rfl
  | some path =>
    rw [loadLocal_of_found hfind, Resolver.orUnreadable, Option.bind_some]
    cases (loadOnce d path r).result with
    | ok loaded => rfl
    | error failure => cases failure <;> rfl

end

/-! ### Requests -/

/-- A call of a resolver. -/
inductive Call where
  | explicit (path : Path)
  | global
  | own (directory : Path)
  | extend (parent : Context) (directory : Path)

/-- A call with the disk as it is then. -/
structure Request where
  disk : Disk
  call : Call

namespace Request

/-- The file that is asked for, if there is one. -/
def file? (q : Request) (searchDirs : List Path) : Option Path :=
  match q.call with
  | .explicit path => some path
  | .global => searchDirs.findSome? (findConfig? q.disk)
  | .own directory => findConfig? q.disk directory
  | .extend _ directory => findConfig? q.disk directory

/-- Make a request. -/
def run (q : Request) : Action Resolver Unit :=
  match q.call with
  | .explicit path => do
    let _ ← loadExplicit q.disk path
    return
  | .global => do
    let _ ← loadGlobal q.disk
    return
  | .own directory => do
    let _ ← loadLocal q.disk directory
    return
  | .extend parent directory => do
    let _ ← Resolver.extend q.disk parent directory
    return

/-- The configuration that is loaded by a request. -/
def given? (q : Request) (r : Resolver) : Option LoadedConfig :=
  match q.call with
  | .explicit path => (loadExplicit q.disk path r).result.toOption
  | .global => (loadGlobal q.disk r).result.toOption.join
  | .own directory => (loadLocal q.disk directory r).result.toOption.join
  | .extend _ directory => (loadLocal q.disk directory r).result.toOption.join

theorem asked_run (q : Request) (r : Resolver) :
  Asked q.disk (q.file? r.searchDirs) r (q.run r)
  := by
  rw [file?, run]
  cases q.call with
  | explicit path =>
    apply (asked_loadExplicit path).bind
    intro _
    apply quiet_pure
  | global =>
    apply asked_loadGlobal.bind
    intro _
    apply quiet_pure
  | own directory =>
    apply (asked_loadLocal directory).bind
    intro _
    apply quiet_pure
  | extend parent directory =>
    apply (asked_extend parent directory).bind
    intro _
    apply quiet_pure

/-- Whichever the call, its file is loaded. -/
theorem given?_eq (q : Request) (r : Resolver) :
  q.given? r
    = (q.file? r.searchDirs).bind fun path => (loadOnce q.disk path r).result.toOption
  := by
  rw [given?, file?]
  cases q.call with
  | explicit path =>
    dsimp only
    rw [loadExplicit_result, Option.bind_some]
  | global => apply loadGlobal_result
  | own directory => apply loadLocal_result
  | extend parent directory => apply loadLocal_result

/-- What is given is what is then remembered under the key of the file. -/
theorem given?_eq_lookup? (q : Request) (r : Resolver) :
  q.given? r
    = (q.file? r.searchDirs).bind fun path => (q.run r).state.lookup? (keyOf q.disk path)
  := by
  have hrun := (q.asked_run r).loaded
  rw [given?_eq]
  cases hfile : q.file? r.searchDirs with
  | none => rfl
  | some path =>
    rw [hfile] at hrun
    have honce : (loadOnce q.disk path r).state.loaded = _ := (asked_loadOnce path).loaded
    rw [Option.bind_some, Option.bind_some, lookup?_of_loaded (hrun.trans honce.symm)]
    apply Option.ext
    intro loaded
    rw [← loadOnce_eq_ok_iff]
    cases (loadOnce q.disk path r).result <;> simp [Except.toOption]

/-- The files that are read with success when a request is made. -/
def readings (q : Request) (r : Resolver) : List Path :=
  ((q.run r).events.filterMap Event.read?).filter (isReadable q.disk)

/-- Each file that is read with success is remembered. -/
theorem parsedCount_run (q : Request) (r : Resolver) :
  (q.run r).state.parsedCount = r.parsedCount + (q.readings r).length
  := by
  rw [parsedCount, parsedCount, (q.asked_run r).loaded, List.length_append, readings,
    (q.asked_run r).read]
  congr 1
  cases q.file? r.searchDirs with
  | none => rfl
  | some path => rw [Option.bind_some, Option.toList_some, List.flatMap_singleton, length_fresh?]

end Request

/-! ### Runs -/

/-- Make requests in turn, whatever each of them ends with. -/
def session (requests : List Request) : Action Resolver Unit :=
  Action.attempts (requests.map Request.run)

/-- A resolver after requests. -/
def after (searchDirs : List Path) (requests : List Request) : Resolver :=
  (session requests (empty searchDirs)).state

/-- The files that are read with success while requests are made. -/
def readingsIn (r : Resolver) : List Request → List Path
  | [] => []
  | q :: rest => q.readings r ++ readingsIn (q.run r).state rest

theorem parsedCount_session (requests : List Request) (r : Resolver) :
  (session requests r).state.parsedCount = r.parsedCount + (readingsIn r requests).length
  := by
  induction requests generalizing r with
  | nil => rfl
  | cons q rest ih =>
    have hrest := ih (q.run r).state
    rw [session] at hrest
    rw [session, List.map_cons, Action.attempts_cons, hrest, q.parsedCount_run, readingsIn,
      List.length_append, Nat.add_assoc]

/-- Whether a request is the first of some to read a file with a certain key, and what it has
read. -/
def FirstRead (searchDirs : List Path) (requests : List Request) (key : Path)
    (loaded : LoadedConfig) : Prop :=
  ∃ before q later, requests = before ++ q :: later ∧ q.file? searchDirs = some loaded.path
    ∧ keyOf q.disk loaded.path = key ∧ (after searchDirs before).lookup? key = none
    ∧ configIn q.disk loaded.path = .ok (some loaded.config)

section

variable {searchDirs : List Path}

theorem session_concat (requests : List Request) (q : Request) :
  session (requests ++ [q]) (empty searchDirs)
    = ⟨.ok (), (q.run (after searchDirs requests)).state,
      (session requests (empty searchDirs)).events ++ (q.run (after searchDirs requests)).events⟩
  := by
  rw [session, List.map_append, Action.attempts_append, List.map_singleton,
    Action.attempts_singleton]
  rfl

theorem after_concat (requests : List Request) (q : Request) :
  after searchDirs (requests ++ [q]) = (q.run (after searchDirs requests)).state
  := by
  rw [after, session_concat]

theorem after_searchDirs (requests : List Request) :
  (after searchDirs requests).searchDirs = searchDirs
  := by
  induction requests using List.reverseRecOn with
  | nil => rfl
  | append_singleton requests q ih =>
    rw [after_concat, (q.asked_run _).searchDirs, ih]

/-- A request adds what is fresh, and nothing else. -/
theorem loaded_after_concat (requests : List Request) (q : Request) :
  (after searchDirs (requests ++ [q])).loaded = (after searchDirs requests).loaded
    ++ ((q.file? searchDirs).bind ((after searchDirs requests).fresh? q.disk)).toList
  := by
  have hloaded := (q.asked_run (after searchDirs requests)).loaded
  rw [after_searchDirs] at hloaded
  rw [after_concat, hloaded]

theorem isPrefix_loaded (before later : List Request) :
  (after searchDirs before).loaded <+: (after searchDirs (before ++ later)).loaded
  := by
  induction later using List.reverseRecOn with
  | nil => simp
  | append_singleton later q ih =>
    rw [← List.append_assoc, loaded_after_concat]
    apply ih.trans (List.prefix_append _ _)

/-- What is remembered under a key has been read by the first request that could. -/
theorem firstRead_of_mem (requests : List Request) {entry : Path × LoadedConfig}
    (h : entry ∈ (after searchDirs requests).loaded) :
  FirstRead searchDirs requests entry.1 entry.2
  := by
  induction requests using List.reverseRecOn with
  | nil => simp [after, session, Action.attempts, empty, pure, Action.value] at h
  | append_singleton requests q ih =>
    rw [loaded_after_concat, List.mem_append] at h
    rcases h with hold | hnew
    · obtain ⟨before, q', later, rfl, hread⟩ := ih hold
      exact ⟨before, q', later ++ [q], by simp, hread⟩
    · obtain ⟨path, hfile, hfresh⟩ := Option.bind_eq_some_iff.mp (Option.mem_toList.mp hnew)
      obtain ⟨hnone, config, hconfig, rfl⟩ := fresh?_eq_some_iff.mp hfresh
      use requests, q, [], rfl, hfile, rfl, hnone, hconfig

/-- No two files are remembered under one key. -/
theorem keys_pairwise (requests : List Request) :
  (after searchDirs requests).loaded.Pairwise fun entry entry' => entry.1.same entry'.1 = false
  := by
  induction requests using List.reverseRecOn with
  | nil => exact .nil
  | append_singleton requests q ih =>
    rw [loaded_after_concat, List.pairwise_append]
    use ih, by cases (q.file? searchDirs).bind _ <;> simp
    intro entry hentry entry' hnew
    obtain ⟨path, -, hfresh⟩ := Option.bind_eq_some_iff.mp (Option.mem_toList.mp hnew)
    obtain ⟨hnone, config, -, rfl⟩ := fresh?_eq_some_iff.mp hfresh
    have hfind := List.find?_eq_none.mp (Option.map_eq_none_iff.mp hnone) entry hentry
    simpa using hfind

theorem given?_after (requests : List Request) (q : Request) :
  q.given? (after searchDirs requests) = (q.file? searchDirs).bind fun path =>
    (after searchDirs (requests ++ [q])).lookup? (keyOf q.disk path)
  := by
  rw [q.given?_eq_lookup?, after_searchDirs, after_concat]

/-- A request for which nothing is loaded changes nothing. -/
theorem loaded_of_given?_eq_none {requests : List Request} {q : Request}
    (h : q.given? (after searchDirs requests) = none) :
  (after searchDirs (requests ++ [q])).loaded = (after searchDirs requests).loaded
  := by
  have hloaded : (after searchDirs (requests ++ [q])).loaded = _ := loaded_after_concat requests q
  rw [given?_after] at h
  cases hfile : q.file? searchDirs with
  | none =>
    rw [hloaded, hfile]
    simp
  | some path =>
    rw [hfile, Option.bind_some] at hloaded h
    cases hfresh : (after searchDirs requests).fresh? q.disk path with
    | none =>
      rw [hloaded, hfresh]
      simp
    | some entry =>
      rw [hfresh] at hloaded
      obtain ⟨hnone, config, -, rfl⟩ := fresh?_eq_some_iff.mp hfresh
      simp [lookup?_concat hnone hloaded] at h

/-- What is remembered for two requests with one key is the same, whatever happens between
them. -/
theorem given?_eq_of_same {before between : List Request} {q q' : Request} {path path' : Path}
    {loaded loaded' : LoadedConfig} (hfile : q.file? searchDirs = some path)
    (hfile' : q'.file? searchDirs = some path')
    (hkey : (keyOf q.disk path).same (keyOf q'.disk path') = true)
    (hgiven : q.given? (after searchDirs before) = some loaded)
    (hgiven' : q'.given? (after searchDirs (before ++ q :: between)) = some loaded') :
  loaded' = loaded
  := by
  rw [given?_after, hfile, Option.bind_some] at hgiven
  rw [given?_after, hfile', Option.bind_some, ← lookup?_congr hkey] at hgiven'
  have hkept := lookup?_of_prefix (isPrefix_loaded _ (between ++ [q'])) hgiven
  simp only [List.append_assoc, List.cons_append, List.nil_append] at hkept hgiven'
  apply Option.some.inj (hgiven'.symm.trans hkept)

/-- A request is given a configuration if the file is remembered or can be read. -/
theorem isSome_given?_iff (requests : List Request) (q : Request) :
  (q.given? (after searchDirs requests)).isSome = true
    ↔ ∃ path, q.file? searchDirs = some path
      ∧ (((after searchDirs requests).lookup? (keyOf q.disk path)).isSome = true
        ∨ isReadable q.disk path = true)
  := by
  rw [given?_after]
  cases hfile : q.file? searchDirs with
  | none => simp
  | some path =>
    have hloaded : (after searchDirs (requests ++ [q])).loaded = _ :=
      loaded_after_concat requests q
    rw [hfile, Option.bind_some] at hloaded
    simp only [Option.bind_some, Option.some.injEq, exists_eq_left']
    cases hlookup : (after searchDirs requests).lookup? (keyOf q.disk path) with
    | some known =>
      have hkept := lookup?_of_prefix (isPrefix_loaded requests [q]) hlookup
      simp [hkept]
    | none =>
      rw [isReadable]
      cases hfresh : (after searchDirs requests).fresh? q.disk path with
      | some entry =>
        obtain ⟨-, config, hconfig, rfl⟩ := fresh?_eq_some_iff.mp hfresh
        rw [hfresh] at hloaded
        simp [lookup?_concat hlookup hloaded, hconfig]
      | none =>
        rw [hfresh, Option.toList_none, List.append_nil] at hloaded
        rw [lookup?_of_loaded hloaded, hlookup]
        cases hconfig : configIn q.disk path with
        | error failure => simp
        | ok found =>
          cases found with
          | none => simp
          | some config =>
            have hnew := fresh?_eq_some_iff.mpr ⟨hlookup, config, hconfig, rfl⟩
            simp [hfresh] at hnew

/-- What holds of a resolver after requests. -/
structure Remembers (searchDirs : List Path) (requests : List Request) : Prop where
  /-- Each file that has been read with success is counted. -/
  parsedCount : (after searchDirs requests).parsedCount
    = (readingsIn (empty searchDirs) requests).length
  keys : (after searchDirs requests).loaded.Pairwise fun entry entry' =>
    entry.1.same entry'.1 = false
  /-- Under each key there is what was read by the first request that could read a file with this
  key. -/
  firstRead : ∀ entry ∈ (after searchDirs requests).loaded,
    FirstRead searchDirs requests entry.1 entry.2
  /-- What has been read is neither dropped nor replaced. -/
  grows : ∀ before later, requests = before ++ later →
    (after searchDirs before).loaded <+: (after searchDirs requests).loaded
  given : ∀ before q later, requests = before ++ q :: later →
    ((q.given? (after searchDirs before)).isSome = true
      ↔ ∃ path, q.file? searchDirs = some path
        ∧ (((after searchDirs before).lookup? (keyOf q.disk path)).isSome = true
          ∨ isReadable q.disk path = true))
  /-- A request that is given nothing leaves nothing behind. -/
  failed : ∀ before q later, requests = before ++ q :: later →
    q.given? (after searchDirs before) = none →
      (after searchDirs (before ++ [q])).loaded = (after searchDirs before).loaded
  kept : ∀ before q later path loaded, requests = before ++ q :: later →
    q.file? searchDirs = some path → q.given? (after searchDirs before) = some loaded →
      ∃ key, key.same (keyOf q.disk path) = true
        ∧ (key, loaded) ∈ (after searchDirs (before ++ [q])).loaded
  /-- Two requests for one key are given the same. -/
  same : ∀ before q between q' later path path' loaded loaded',
    requests = before ++ q :: between ++ q' :: later →
    q.file? searchDirs = some path → q'.file? searchDirs = some path' →
    (keyOf q.disk path).same (keyOf q'.disk path') = true →
    q.given? (after searchDirs before) = some loaded →
    q'.given? (after searchDirs (before ++ q :: between)) = some loaded' → loaded' = loaded

/-- Whatever is asked of a resolver, and however the disk is changed in between, the first reading
of a file decides what every later request for its key is given. -/
theorem session_remembers (searchDirs : List Path) (requests : List Request) :
  Remembers searchDirs requests
  := by
  constructor
  · rw [after, parsedCount_session]
    apply Nat.zero_add
  · apply keys_pairwise
  · intro entry hentry
    apply firstRead_of_mem requests hentry
  · rintro before later rfl
    apply isPrefix_loaded
  · intro before q later _
    apply isSome_given?_iff
  · intro before q later _ hgiven
    apply loaded_of_given?_eq_none hgiven
  · intro before q later path loaded _ hfile hgiven
    rw [given?_after, hfile, Option.bind_some] at hgiven
    obtain ⟨entry, hentry, hsame, rfl⟩ := mem_of_lookup? hgiven
    use entry.1, hsame, hentry
  · intro before q between q' later path path' loaded loaded' _ hfile hfile' hkey hgiven hgiven'
    apply given?_eq_of_same hfile hfile' hkey hgiven hgiven'

end

end Resolver

end Compendium
