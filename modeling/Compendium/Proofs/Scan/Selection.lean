import Compendium.Proofs.Aggregate
import Compendium.Proofs.Resolver.Failing
import Compendium.Proofs.Scan.Closure

/-!
# The selected configuration

A resolver may be asked for configurations in any order, and aggregations may be made with it,
before and after one file is selected as that of the global configuration.  While the disk stays
as it is, all that the resolver remembers is still what the disk says, and its global key is that
of the file that was selected last, by whichever path this file was read first.
-/

namespace Compendium

namespace Resolver

/-! ### What is still on the disk -/

/-- Whether all that a resolver remembers is on the disk, under the keys it has there. -/
def Current (r : Resolver) (d : Disk) : Prop :=
  ∀ entry ∈ r.loaded,
    entry.1 = keyOf d entry.2.path ∧ configIn d entry.2.path = .ok (some entry.2.config)

section

variable {d : Disk} {r : Resolver}

theorem current_empty (searchDirs : List Path) (d : Disk) :
  (empty searchDirs).Current d
  := by simp [Current, empty]

theorem isFile_of_configIn {path : Path} {config : Config}
    (h : configIn d path = .ok (some config)) :
  d.isFile path = true
  := by
  obtain ⟨bytes, hbytes, -⟩ := configIn_eq_some_iff.mp h
  apply Disk.isFile_iff.mpr ⟨bytes, hbytes⟩

/-- What is remembered and still on the disk is what would be read. -/
theorem Current.faithful (hd : d.WellFormed) (hr : r.Current d) :
  r.Faithful d
  := by
  constructor
  · intro entry hentry path hpath hsame
    obtain ⟨hkey, hconfig⟩ := hr entry hentry
    rw [hkey] at hsame
    apply configIn_eq_of_same hd (isFile_of_configIn hconfig) hpath.isFile hsame hconfig
  · intro entry hentry
    rw [(hr entry hentry).1]
    apply Path.same_refl

/-- What is read for a request comes from the disk. -/
theorem Current.asked {α : Type} {file? : Option Path} {outcome : Outcome Resolver α}
    (hr : r.Current d) (h : Asked d file? r outcome) :
  outcome.state.Current d
  := by
  intro entry hentry
  rw [h.loaded] at hentry
  rcases List.mem_append.mp hentry with hold | hnew
  · apply hr entry hold
  · obtain ⟨path, -, hfresh⟩ := Option.bind_eq_some_iff.mp (Option.mem_toList.mp hnew)
    obtain ⟨-, config, hconfig, rfl⟩ := fresh?_eq_some_iff.mp hfresh
    use rfl, hconfig

/-! ### Which file is selected -/

/-- A file that is selected for the global configuration, with what is loaded for it. -/
structure Selection where
  file : Path
  loaded : LoadedConfig

/-- The selection that a request makes, if it does and the file can be loaded. -/
def Request.selected? (q : Request) (r : Resolver) : Option Selection :=
  match q.call with
  | .explicit _ | .global =>
    (q.file? r.searchDirs).bind fun file => (q.given? r).map fun loaded => ⟨file, loaded⟩
  | .own _ | .extend .. => none

theorem Request.selected?_eq_some {q : Request} {s : Selection} (h : q.selected? r = some s) :
  q.file? r.searchDirs = some s.file ∧ q.given? r = some s.loaded
  := by
  have hboth : ((q.file? r.searchDirs).bind fun file =>
      (q.given? r).map fun loaded => (⟨file, loaded⟩ : Selection)) = some s := by
    rw [selected?] at h
    cases hcall : q.call <;> simp_all
  obtain ⟨file, hfile, hmap⟩ := Option.bind_eq_some_iff.mp hboth
  obtain ⟨loaded, hloaded, rfl⟩ := Option.map_eq_some_iff.mp hmap
  use hfile, hloaded

/-- What is given for a selection is the configuration that is in its file, and was read from
this file, although perhaps by another path. -/
structure Selection.Sound (s : Selection) (d : Disk) : Prop where
  same : (keyOf d s.loaded.path).same (keyOf d s.file) = true
  config : configIn d s.loaded.path = .ok (some s.loaded.config)

theorem Request.selected?_sound {q : Request} (hr : r.Current q.disk) {s : Selection}
    (h : q.selected? r = some s) :
  s.Sound q.disk
  := by
  obtain ⟨hfile, hgiven⟩ := selected?_eq_some h
  rw [given?_eq_lookup?, hfile, Option.bind_some] at hgiven
  obtain ⟨entry, hentry, hsame, heq⟩ := mem_of_lookup? hgiven
  obtain ⟨hkey, hconfig⟩ := hr.asked (q.asked_run r) entry hentry
  rw [heq] at hkey hconfig
  use hkey ▸ hsame, hconfig

/-! ### Which key is global -/

theorem globalKey_run (hd : d.WellFormed) (hr : r.Current d) (c : Call) :
  ((Request.mk d c).run r).state.globalKey
    = (((Request.mk d c).selected? r).map fun s => keyOf d s.file).or r.globalKey
  := by
  have hfaithful := hr.faithful hd
  cases c with
  | explicit path =>
    rw [Request.run, Action.bind_unit_state, globalKey_loadExplicit, Request.selected?,
      Request.given?, Request.file?, Option.bind_some, Option.map_map]
    rfl
  | global =>
    rw [Request.run, Action.bind_unit_state, globalKey_loadGlobal, Request.selected?,
      Request.given?, Request.file?, Option.map_bind]
    simp only [Function.comp_def, Option.map_map]
  | own directory =>
    rw [Request.run, Action.bind_unit_state]
    apply ((meets_loadLocal hd hfaithful directory).mono (fun _ _ h => h.1.globalKey)
      fun _ _ h => h.1.globalKey).always
  | extend parent directory =>
    rw [Request.run, Action.bind_unit_state]
    apply ((meets_extend hd hfaithful parent directory).mono (fun _ _ h => h.1.globalKey)
      fun _ _ h => h.1.globalKey).always

end

end Resolver

namespace Scan

/-! ### What an aggregation leaves of a resolver -/

/-- Whether a scan writes to no file, and its resolver remembers what is on the disk and has a
certain global key. -/
structure Settled (d : Disk) (globalKey : Option Path) (s : Scan) : Prop where
  offDisk : s.sink.OffDisk
  current : s.resolver.Current d
  globalKey : s.resolver.globalKey = globalKey

/-- Whether an action keeps a scan settled, whatever it ends with. -/
def Keeps {α : Type} (d : Disk) (globalKey : Option Path) (x : Action Scan α) : Prop :=
  ∀ s, Settled d globalKey s → Settled d globalKey (x s).state

section

variable {α β : Type} {d : Disk} {globalKey : Option Path}

theorem keeps_pure (a : α) :
  Keeps d globalKey (pure a : Action Scan α)
  := fun _ hs => hs

theorem keeps_state :
  Keeps d globalKey Action.state
  := fun _ hs => hs

theorem keeps_tell (event : Event) :
  Keeps d globalKey (Action.tell event : Action Scan Unit)
  := fun _ hs => hs

theorem keeps_ofExcept (found : Except Failure α) :
  Keeps d globalKey (Action.ofExcept found : Action Scan α)
  := fun _ hs => hs

theorem keeps_bind {x : Action Scan α} {f : α → Action Scan β} (hx : Keeps d globalKey x)
    (hf : ∀ a, Keeps d globalKey (f a)) :
  Keeps d globalKey (x >>= f)
  := by
  intro s hs
  cases hresult : (x s).result with
  | error failure =>
    rw [Action.bind_of_error hresult]
    apply hx s hs
  | ok a =>
    rw [Action.bind_of_ok hresult]
    apply hf a _ (hx s hs)

theorem keeps_reporting (f : Report → Report) :
  Keeps d globalKey (reporting f)
  := fun _ hs => ⟨hs.offDisk, hs.current, hs.globalKey⟩

/-- The disk is seen as it is. -/
theorem keeps_seeing {f : Disk → Action Scan α} (hf : Keeps d globalKey (f d)) :
  Keeps d globalKey (seenDisk d >>= f)
  := by
  intro s hs
  have hseen : (seenDisk d s).result = .ok d := by
    change Except.ok (s.sink.seenDisk d) = _
    rw [hs.offDisk.seenDisk_eq]
  rw [Action.bind_of_ok hseen]
  apply hf s hs

/-- A scan comes from another by writing bytes. -/
def Wrote (s s' : Scan) : Prop := ∃ bytes k, Sink.Took s.sink bytes k ∧ s' = { s with sink := k }

/-- What is written to no file leaves no trace on the disk. -/
theorem keeps_of_wrote {x : Action Scan α}
    (h : ∀ s, x.Meets s (fun _ s' => Wrote s s') fun _ s' => Wrote s s') :
  Keeps d globalKey x
  := by
  intro s hs
  obtain ⟨bytes, k, hk, heq⟩ := (h s).always
  rw [heq]
  use hs.offDisk.of_outlet hk.outlet, hs.current, hs.globalKey

theorem keeps_extending (hd : d.WellFormed) (above : Context) (path : Path) :
  Keeps d globalKey (resolving (Resolver.extend d above path))
  := by
  intro s hs
  have hmeets := Resolver.meets_extend hd (hs.current.faithful hd) above path
  have hkey := (hmeets.mono (fun _ _ h => h.1.globalKey) fun _ _ h => h.1.globalKey).always
  use hs.offDisk, hs.current.asked (Resolver.asked_extend above path)
  apply hkey.trans hs.globalKey

theorem keeps_includeContent (path relative : Path) (context : Context) (content : Content) :
  Keeps d globalKey (includeContent path relative context content)
  := by
  apply keeps_of_wrote
  intro s
  apply (meets_includeContent path relative context content).mono
  · rintro how s' ⟨-, k, hk, rfl⟩
    exact ⟨_, k, hk, rfl⟩
  · rintro failure s' ⟨-, -, torn, -, -, k, hk, rfl⟩
    exact ⟨torn, k, hk, rfl⟩

theorem keeps_includeFile (path relative : Path) (context : Context) :
  Keeps d globalKey (includeFile d path relative context)
  := by
  apply keeps_seeing
  apply keeps_bind keeps_state
  intro s
  split
  · apply keeps_bind (keeps_tell _) fun _ => keeps_reporting _
  · cases d.read path with
    | error fault => apply keeps_bind (keeps_tell _) fun _ => keeps_reporting _
    | ok bytes => apply keeps_bind (keeps_includeContent _ _ _ _) fun _ => keeps_reporting _

/-- Wherever a scan goes, it stays settled. -/
theorem keeps_closed (hd : d.WellFormed) :
  Closed d (· = d) (fun _ => Keeps d globalKey)
  := by
  constructor
  · intro α a
    apply keeps_pure
  · intro α β x f hx hf
    apply keeps_bind hx hf
  · intro event _
    apply keeps_tell
  · intro α f hf
    apply keeps_seeing (hf d rfl)
  · rintro seen above path rfl
    apply keeps_extending hd
  · intro path
    apply keeps_reporting
  · intro failure
    apply keeps_reporting
  · apply keeps_includeFile

theorem keeps_beginning :
  Keeps d globalKey (sinking Sink.begin)
  := by
  apply keeps_of_wrote
  intro s
  apply (meets_beginning s).mono
  · rintro _ s' ⟨k, rfl, hk⟩
    exact ⟨_, k, hk, rfl⟩
  · rintro failure s' ⟨-, torn, k, rfl, -, hk⟩
    exact ⟨torn, k, hk, rfl⟩

theorem keeps_finishing :
  Keeps d globalKey (sinking Sink.finish)
  := by
  apply keeps_of_wrote
  intro s
  apply (meets_finishing s).mono
  · rintro _ s' ⟨k, hk, rfl⟩
    exact ⟨[], k, hk, rfl⟩
  · rintro failure s' ⟨-, k, hk, rfl⟩
    exact ⟨[], k, hk, rfl⟩

/-- An aggregation keeps what the resolver knows in step with the disk. -/
theorem keeps_aggregate (hd : d.WellFormed) (scope : Scope) (paths : List Path)
    (excluded : Option Path) :
  Keeps d globalKey (aggregate d scope paths excluded)
  := by
  apply (keeps_closed hd).aggregate (fun _ => keeps_ofExcept _) _ keeps_beginning keeps_finishing
  · intro f hf
    apply keeps_bind keeps_state fun s => hf s.report
  · intro _ _ hs
    use hs.offDisk, hs.current, hs.globalKey

end

/-! ### Runs before a scope is made -/

/-- How a resolver can have been used while a disk stays as it is, and what has been selected
last: it has been called, and aggregations have been made with it, in any order. -/
inductive Reached (d : Disk) (searchDirs : List Path) :
    Resolver → Option Resolver.Selection → Prop
  | fresh : Reached d searchDirs (.empty searchDirs) none
  | call {r : Resolver} {selection : Option Resolver.Selection} (c : Resolver.Call)
    (h : Reached d searchDirs r selection) :
    Reached d searchDirs ((Resolver.Request.mk d c).run r).state
      (((Resolver.Request.mk d c).selected? r).or selection)
  | aggregate {r : Resolver} {selection : Option Resolver.Selection} (scope : Scope)
    (paths : List Path) (excluded : Option Path) (k : Sink) (hk : k.OffDisk)
    (h : Reached d searchDirs r selection) :
    Reached d searchDirs (Scan.aggregate d scope paths excluded (start r k)).state.resolver
      selection

section

variable {d : Disk} {searchDirs : List Path} {r : Resolver}
  {selection : Option Resolver.Selection}

/-- However a resolver has been used, what it remembers is on the disk, and its global key is
that of the file that has been selected. -/
theorem Reached.sound (hd : d.WellFormed) (h : Reached d searchDirs r selection) :
  r.Current d ∧ r.globalKey = selection.map (fun s => Resolver.keyOf d s.file)
    ∧ ∀ s ∈ selection, s.Sound d
  := by
  induction h with
  | fresh =>
    use Resolver.current_empty searchDirs d, rfl
    simp
  | @call r selection c h ih =>
    obtain ⟨hcurrent, hkey, hsound⟩ := ih
    have hasked : Resolver.Asked d _ r ((Resolver.Request.mk d c).run r) :=
      Resolver.Request.asked_run ⟨d, c⟩ r
    use hcurrent.asked hasked
    constructor
    · rw [Resolver.globalKey_run hd hcurrent, hkey, Option.map_or]
    · intro s hs
      rcases Option.or_eq_some_iff.mp hs with hnew | ⟨-, hold⟩
      · apply Resolver.Request.selected?_sound (q := ⟨d, c⟩) hcurrent hnew
      · apply hsound s hold
  | @aggregate r selection scope paths excluded k hk h ih =>
    obtain ⟨hcurrent, hkey, hsound⟩ := ih
    have hstart : Settled d (selection.map fun s => Resolver.keyOf d s.file) (start r k) :=
      ⟨hk, hcurrent, hkey⟩
    have hsettled := keeps_aggregate hd scope paths excluded _ hstart
    use hsettled.current, hsettled.globalKey, hsound

/-- A scan can start with a resolver that has been used on the disk. -/
theorem Reached.ready (hd : d.WellFormed) (h : Reached d searchDirs r selection) {k : Sink}
    (hopen : k.OpenOn d) (hapart : ∀ location, k.outlet = .file location →
      ∀ path, Resolver.IsConfig d path → d.locate .content path ≠ .ok location) :
  Ready d (selection.map fun s => Resolver.keyOf d s.file) (start r k)
  := by
  obtain ⟨hcurrent, hkey, -⟩ := h.sound hd
  use hd, hcurrent.faithful hd, hkey, hopen, hapart

end

end Scan

end Compendium
