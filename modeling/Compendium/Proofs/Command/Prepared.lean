import Compendium.Proofs.Command.Setup
import Compendium.Proofs.Resolver.Search

/-!
# Getting to the document on another disk

Until it opens its document, a run looks at the disk for its global configuration only.  So it
gets as far on every other disk on which it finds the same configuration, as it does on one that
has new directories and another file without the name of a configuration.
-/

namespace Compendium.Command

namespace Job

/-! ### Parts that pass a change of the state -/

variable {α β : Type} {alter : Work → Work}

/-- Whether a part of a run passes a change of the state: after the change it ends with the same,
and what it leaves is changed alike. -/
def Passes (alter : Work → Work) (x : Job α) : Prop :=
  ∀ w, x.outcome (alter w) = ((x.outcome w).1, alter (x.outcome w).2)

/-- A part of a run is diskless if it neither looks at the disk nor changes it. -/
def Diskless (x : Job α) : Prop :=
  ∀ w e, x.outcome { w with disk := e } = ((x.outcome w).1, { (x.outcome w).2 with disk := e })

/-- Whether a change leaves the resolver alone, and is the same before as after notices are told
and the resolver is put to use. -/
structure Neutral (alter : Work → Work) : Prop where
  resolver : ∀ w, (alter w).resolver = w.resolver
  resolving : ∀ w r, alter { w with resolver := r } = { alter w with resolver := r }
  telling : ∀ w notices, alter { w with notices := w.notices ++ notices }
    = { alter w with notices := (alter w).notices ++ notices }

theorem neutral_disk (e : Disk) :
  Neutral fun w => { w with disk := e }
  := ⟨fun _ => rfl, fun _ _ => rfl, fun _ _ => rfl⟩

/-- To have told something before is neutral. -/
theorem neutral_notices (before : List Notice) :
  Neutral fun w => { w with notices := before ++ w.notices }
  := ⟨fun _ => rfl, fun _ _ => rfl, fun _ _ => by simp⟩

theorem passes_pure (a : α) :
  Passes alter (pure a : Job α)
  := fun _ => rfl

theorem passes_orComplain (task : Option String) (found : Except Failure α) :
  Passes alter (orComplain task found)
  := by
  cases found <;> exact fun _ => rfl

/-- A sequence passes a change if each of its parts does. -/
theorem passes_bind {x : Job α} {f : α → Job β} (hx : Passes alter x)
    (hf : ∀ a, Passes alter (f a)) :
  Passes alter (x >>= f)
  := by
  intro w
  rw [outcome_bind, outcome_bind, hx w]
  rcases x.outcome w with ⟨complaint | a, w'⟩
  · rfl
  · apply hf a w'

theorem passes_tell (h : Neutral alter) (n : Notice) :
  Passes alter (tell n)
  := fun w => Prod.ext rfl (h.telling w [n]).symm

theorem outcome_orComplain (task : Option String) (found : Except Failure α) (w : Work) :
  (orComplain task found).outcome w = (found.mapError (⟨task, ·⟩), w)
  := by
  cases found <;> rfl

theorem outcome_perform {σ : Type} (task : String) (part : Work → σ) (replace : Work → σ → Work)
    (x : Action σ α) (w : Work) :
  (perform task part replace x).outcome w
    = ((x (part w)).result.mapError (⟨some task, ·⟩),
      { replace w (x (part w)).state with
        notices := w.notices ++ (x (part w)).events.map .event })
  := by
  rw [perform, outcome_bind]
  change (orComplain (some task) (x (part w)).result).outcome _ = _
  cases (x (part w)).result <;> rfl

theorem passes_resolving (h : Neutral alter) (task : String) (x : Action Resolver α) :
  Passes alter (perform task (·.resolver) (fun w r => { w with resolver := r }) x)
  := by
  intro w
  rw [outcome_perform, outcome_perform, h.resolver]
  have htell := h.telling { w with resolver := (x w.resolver).state }
    ((x w.resolver).events.map .event)
  rw [h.resolving] at htell
  exact Prod.ext rfl htell.symm

end Job

/-! ### The global configuration on another disk -/

/-- Load the global configuration from a disk. -/
def loadGlobalFrom (d : Disk) (home : Option Path) (s : Settings) : Job (Option LoadedConfig) :=
  if s.noGlobalConfig then do
    Job.tell .globalDisabled
    return none
  else match s.config with
  | some raw => do
    let path ← Job.orComplain none (expandPath home raw)
    let loaded ← Job.perform ("Failed to load configuration " ++ path.text) (·.resolver)
      (fun w r => { w with resolver := r }) (Resolver.loadExplicit d path)
    return some loaded
  | none =>
    Job.perform "Failed to load global configuration" (·.resolver)
      (fun w r => { w with resolver := r }) (Resolver.loadGlobal d)

section

variable {d e : Disk} {home : Option Path} {s : Settings}

/-- The disk is looked at once. -/
theorem outcome_loadGlobal (w : Work) :
  (loadGlobal home s).outcome w = (loadGlobalFrom w.disk home s).outcome w
  := by
  rw [loadGlobal, Job.outcome_bind, loadGlobalFrom]
  rfl

/-- Without a global configuration, nothing is looked for. -/
theorem outcome_loadGlobal_of_disabled (hglobal : s.noGlobalConfig = true) (w : Work) :
  (loadGlobal home s).outcome w
    = (.ok none, { w with notices := w.notices ++ [.globalDisabled] })
  := by
  rw [outcome_loadGlobal, loadGlobalFrom, if_pos hglobal]
  rfl

theorem passes_loadGlobalFrom {alter : Work → Work} (h : Job.Neutral alter) :
  Job.Passes alter (loadGlobalFrom d home s)
  := by
  rw [loadGlobalFrom]
  split
  · apply Job.passes_bind (Job.passes_tell h _) fun _ => Job.passes_pure _
  · cases s.config with
    | some raw =>
      apply Job.passes_bind (Job.passes_orComplain _ _)
      intro path
      apply Job.passes_bind (Job.passes_resolving h _ _) fun _ => Job.passes_pure _
    | none => apply Job.passes_resolving h _ _

theorem diskless_loadGlobalFrom :
  Job.Diskless (loadGlobalFrom d home s)
  := fun w e => passes_loadGlobalFrom (Job.neutral_disk e) w

/-- Whether a run that finds its global configuration on a disk finds the same on another. -/
structure SameGlobal (d e : Disk) (home : Option Path) (s : Settings) : Prop where
  here : e.here = d.here
  selected : selected e home s = selected d home s
  file : ∀ path bytes, Command.selected d home s = .ok (some path) → d.read path = .ok bytes →
    e.read path = .ok bytes ∧ Resolver.keyOf e path = Resolver.keyOf d path

theorem loadExplicit_congr {path : Path} (hread : e.read path = d.read path)
    (hkey : Resolver.keyOf e path = Resolver.keyOf d path) :
  Resolver.loadExplicit e path = Resolver.loadExplicit d path
  := by
  have hload {σ : Type} : (Resolver.load e path : Action σ Config) = Resolver.load d path := by
    rw [Resolver.load, Resolver.load, hread]
  simp only [Resolver.loadExplicit, Resolver.loadOnce, hkey, hload]

/-- A global configuration is loaded alike from disks on which the same one is found. -/
theorem loadGlobal_congr {dirs : List Path} (hfind : dirs.findSome? (Resolver.findConfig? e)
      = dirs.findSome? (Resolver.findConfig? d))
    (hexplicit : ∀ path, dirs.findSome? (Resolver.findConfig? d) = some path →
      Resolver.loadExplicit e path = Resolver.loadExplicit d path) {r : Resolver}
    (hr : r.searchDirs = dirs) :
  Resolver.loadGlobal e r = Resolver.loadGlobal d r
  := by
  subst hr
  cases hd : r.searchDirs.findSome? (Resolver.findConfig? d) with
  | none => rw [Resolver.loadGlobal_of_missing hd, Resolver.loadGlobal_of_missing (hfind.trans hd)]
  | some path =>
    rw [Resolver.loadGlobal_of_found hd, Resolver.loadGlobal_of_found (hfind.trans hd),
      hexplicit path hd]

/-- A global configuration that is loaded from a disk is loaded from the other as well. -/
theorem outcome_loadGlobalFrom_of_same (h : SameGlobal d e home s) {config : Option LoadedConfig}
    {w : Work} (hok : (loadGlobal home s).outcome (beginning d home s) = (.ok config, w)) :
  (loadGlobalFrom e home s).outcome (beginning d home s) = (.ok config, w)
  := by
  obtain ⟨-, hselected, hin⟩ := meets_loadGlobal.of_outcome.1 config hok
  -- The file that is selected was read, so that it can be read again.
  have hexplicit {path : Path} (hpath : selected d home s = .ok (some path)) :
      Resolver.loadExplicit e path = Resolver.loadExplicit d path := by
    obtain ⟨loaded, rfl, rfl⟩ := Option.map_eq_some_iff.mp
      (Except.ok.inj (hselected.symm.trans hpath))
    obtain ⟨bytes, hread, -⟩ := Resolver.configIn_eq_some_iff.mp (hin loaded rfl)
    obtain ⟨hread', hkey⟩ := h.file _ _ hpath hread
    apply loadExplicit_congr (hread'.trans hread.symm) hkey
  rw [outcome_loadGlobal] at hok
  change (loadGlobalFrom d home s).outcome _ = _ at hok
  have hsame := h.selected
  rw [loadGlobalFrom] at hok ⊢
  cases hglobal : s.noGlobalConfig with
  | true =>
    rw [hglobal, if_pos rfl] at hok
    rwa [if_pos rfl]
  | false =>
    simp only [selected, hglobal, Bool.false_eq_true, if_false] at hsame hexplicit hok ⊢
    cases hconfig : s.config with
    | some raw =>
      simp only [hconfig] at hexplicit hok ⊢
      rw [Job.outcome_bind, Job.outcome_orComplain] at hok ⊢
      cases hpath : expandPath home raw with
      | error failure => simp [hpath, Except.mapError] at hok
      | ok path =>
        rw [hpath] at hexplicit hok
        simp only [Except.mapError, hexplicit (by rfl)] at hok ⊢
        apply hok
    | none =>
      simp only [hconfig, Except.ok.injEq] at hsame hexplicit hok ⊢
      have hload : Resolver.loadGlobal e (beginning d home s).resolver
          = Resolver.loadGlobal d (beginning d home s).resolver := by
        rw [h.here] at hsame
        apply loadGlobal_congr hsame (fun _ => hexplicit) rfl
      rw [Job.outcome_perform] at hok ⊢
      rwa [hload]

/-- What a run does between loading its global configuration and opening the document. -/
def settle (home : Option Path) (s : Settings) (config : Option LoadedConfig) :
    Job (Scope × Option Path) := do
  let scope ← makeScope s config
  let target ← Job.orComplain none (destination home s)
  return (scope, target)

theorem passes_makeScope {alter : Work → Work} (h : Job.Neutral alter)
    (config : Option LoadedConfig) :
  Job.Passes alter (makeScope s config)
  := by
  rw [makeScope]
  apply Job.passes_bind (Job.passes_orComplain _ _)
  intro scope
  apply Job.passes_bind (Job.passes_tell h _) fun _ => Job.passes_pure _

theorem diskless_settle (config : Option LoadedConfig) :
  Job.Diskless (settle home s config)
  := by
  intro w e
  apply Job.passes_bind (passes_makeScope (Job.neutral_disk e) config) _ w
  intro scope
  apply Job.passes_bind (Job.passes_orComplain _ _) fun _ => Job.passes_pure _

theorem setup_eq :
  setup home s = loadGlobal home s >>= settle home s
  := rfl

/-- A scope that can be made is told of by its patterns. -/
theorem outcome_makeScope {config : Option LoadedConfig} {scope : Scope}
    (hscope : Scope.make (if s.noBuiltinIgnore then [] else builtinPatterns) config s.blacklist
      = .ok scope) (w : Work) :
  (makeScope s config).outcome w
    = (.ok scope, { w with notices := w.notices ++ [.patterns scope.patternTexts] })
  := by
  rw [makeScope, Job.outcome_bind, hscope]
  rfl

/-- A run gets to the opening of its document if its global configuration can be put to use. -/
theorem outcome_setup {config : Option LoadedConfig} {scope : Scope} {target : Option Path}
    {w : Work} (hload : (loadGlobal home s).outcome (beginning d home s) = (.ok config, w))
    (hscope : Scope.make (if s.noBuiltinIgnore then [] else builtinPatterns) config s.blacklist
      = .ok scope)
    (htarget : destination home s = .ok target) :
  (setup home s).outcome (beginning d home s)
    = (.ok (scope, target), { w with notices := w.notices ++ [.patterns scope.patternTexts] })
  := by
  rw [setup_eq, Job.outcome_bind, hload]
  dsimp only
  rw [settle, Job.outcome_bind, outcome_makeScope hscope, htarget]
  rfl

/-- A run that is not told otherwise looks for its global configuration by default, and gets to
the opening of its document if that can be put to use. -/
theorem exists_outcome_setup (hglobal : s.noGlobalConfig = false) (hconfig : s.config = none)
    {config : Option LoadedConfig} {scope : Scope} {target : Option Path}
    (hload : (Resolver.loadGlobal d
      (.empty (Resolver.defaultDirs (Disk.pathOf d.here) home))).result = .ok config)
    (hscope : Scope.make (if s.noBuiltinIgnore then [] else builtinPatterns) config s.blacklist
      = .ok scope)
    (htarget : destination home s = .ok target) :
  ∃ w, (setup home s).outcome (beginning d home s) = (.ok (scope, target), w)
    ∧ w.resolver
      = (Resolver.loadGlobal d (.empty (Resolver.defaultDirs (Disk.pathOf d.here) home))).state
  := by
  obtain ⟨w, hloaded, hw⟩ : ∃ w, (loadGlobal home s).outcome (beginning d home s) = (.ok config, w)
      ∧ w.resolver = (Resolver.loadGlobal d
        (.empty (Resolver.defaultDirs (Disk.pathOf d.here) home))).state := by
    rw [outcome_loadGlobal, loadGlobalFrom, if_neg (by simp [hglobal]), hconfig]
    dsimp only
    rw [Job.outcome_perform]
    simp only [beginning]
    rw [hload]
    refine ⟨_, rfl, ?_⟩
    dsimp only
  exact ⟨_, outcome_setup hloaded hscope htarget, hw⟩

/-- A run that gets to the opening of the document on one disk gets there on the other. -/
theorem outcome_setup_of_same (h : SameGlobal d e home s) {prepared : Scope × Option Path}
    {w : Work} (hok : (setup home s).outcome (beginning d home s) = (.ok prepared, w)) :
  (setup home s).outcome (beginning e home s) = (.ok prepared, { w with disk := e })
  := by
  have hbeginning : beginning e home s = { beginning d home s with disk := e } := by
    rw [beginning, beginning, h.here]
  rw [setup_eq, Job.outcome_bind] at hok ⊢
  rcases hload : (loadGlobal home s).outcome (beginning d home s) with ⟨complaint | config, w₁⟩
  · simp [hload] at hok
  · have hmoved : (loadGlobalFrom e home s).outcome (beginning e home s)
        = (.ok config, { w₁ with disk := e }) := by
      rw [hbeginning, diskless_loadGlobalFrom, outcome_loadGlobalFrom_of_same h hload]
    have hdisk : (beginning e home s).disk = e := rfl
    rw [hload] at hok
    dsimp only at hok
    rw [outcome_loadGlobal, hdisk, hmoved]
    dsimp only
    rw [diskless_settle, hok]

/-! ### The same configuration on both disks -/

/-- Whether the file at a location is none that a run reads its global configuration from: it has
not the name of a configuration file, and the path of a configuration that is asked for does not
lead to it. -/
structure Apart (d : Disk) (home : Option Path) (s : Settings) (l : Location) : Prop where
  name : Disk.NotNamedConfig l
  explicit : ∀ raw path, s.config = some raw → expandPath home raw = .ok path →
    d.locate .content path ≠ .ok l

/-- The global configuration is found where it was, if there is no other one on the other disk. -/
theorem sameGlobal_of_keeps {l : Location} (h : Disk.Keeps (· = l) d e) (hfree : d.LinkFree)
    (hapart : Apart d home s l)
    (hback : ∀ dir ∈ Resolver.defaultDirs (Disk.pathOf d.here) home, ∀ file ∈ Config.fileNames,
      e.isFile (dir.entry file.toList) = true → d.isFile (dir.entry file.toList) = true) :
  SameGlobal d e home s
  := by
  constructor
  · apply h.here
  · have hfind : ∀ dir ∈ Resolver.defaultDirs (Disk.pathOf d.here) home,
        Resolver.findConfig? e dir = Resolver.findConfig? d dir := by
      intro dir hdir
      apply Resolver.findConfig?_congr
      intro file hfile
      use hback dir hdir file hfile
      apply h.isFile_config hfree hapart.name hfile
    rw [selected, selected, h.here, ← List.head?_filterMap, ← List.head?_filterMap,
      List.filterMap_congr hfind]
  · intro path bytes hpath hread
    obtain ⟨m, hm, -⟩ := Disk.read_eq_ok_iff.mp hread
    have hne : m ≠ l := by
      rintro rfl
      rw [selected] at hpath
      split at hpath
      · simp at hpath
      split at hpath
      · rename_i raw hraw
        obtain ⟨found, hfound, hsome⟩ := map_eq_ok_iff.mp hpath
        obtain rfl := Option.some.inj hsome
        apply hapart.explicit raw _ hraw hfound hm
      · obtain ⟨dir, -, hdir⟩ := List.exists_of_findSome?_eq_some (Except.ok.inj hpath)
        apply Resolver.IsConfig.locate_ne hfree hapart.name ⟨dir, hdir⟩ hm
    have hm' := h.locate hfree hne hm
    use h.read hfree hne hm hread
    rw [Resolver.keyOf, Resolver.keyOf, Disk.toOption_canonical_iff.mpr ⟨m, hm, rfl⟩,
      Disk.toOption_canonical_iff.mpr ⟨m, hm', rfl⟩]

end

end Compendium.Command
