import Compendium.Proofs.Command.Job
import Compendium.Proofs.Scan.OwnFault
import Compendium.Proofs.Scan.Reach
import Compendium.Proofs.Scope

/-!
# Before the document is opened

A run loads its global configuration, makes its scope and finds out where the document goes
before it opens the document.  Whatever is wrong with one of them, the run ends there: nothing is
printed and the disk stays as it is.  Once the document is open, the scope cannot fail.
-/

namespace Compendium.Command

/-! ### Failures of what a run is given -/

section

variable {failure : Failure} {task : Option String}

theorem exitCode_of_content (h : failure.OfContent) :
  Complaint.exitCode ⟨task, failure⟩ = 1
  := by
  cases h <;> rfl

theorem exitCode_of_expandPath {home : Option Path} {raw : String}
    (h : expandPath home raw = .error failure) :
  Complaint.exitCode ⟨task, failure⟩ = 5
  := by
  rw [expandPath] at h
  split at h
  · obtain rfl := Except.error.inj h
    rfl
  · cases h

theorem exitCode_of_loadOnce {d : Disk} {path : Path} {r : Resolver}
    (h : (Resolver.loadOnce d path r).result = .error failure) :
  Complaint.exitCode ⟨task, failure⟩ = 1
  := by
  obtain ⟨-, hconfig⟩ := Resolver.loadOnce_eq_error_iff.mp h
  rcases Resolver.of_configAt_eq_error hconfig with ⟨fault, rfl⟩ | ⟨cause, rfl⟩ <;> rfl

end

/-! ### What a run is given -/

/-- The file of the global configuration: the one that is asked for, or the first that is
found. -/
def selected (d : Disk) (home : Option Path) (s : Settings) : Except Failure (Option Path) :=
  if s.noGlobalConfig then .ok none
  else match s.config with
  | some raw => (expandPath home raw).map some
  | none =>
    .ok ((Resolver.defaultDirs (Disk.pathOf d.here) home).findSome? (Resolver.findConfig? d))

/-- Whether a configuration or `none` is the global one of a run. -/
def Given (d : Disk) (home : Option Path) (s : Settings) (config : Option LoadedConfig) : Prop :=
  selected d home s = .ok (config.map (·.path))
    ∧ ∀ loaded, config = some loaded →
      Resolver.configIn d loaded.path = .ok (some loaded.config)

/-- What can be wrong with what applies in a whole run: with its global configuration, with the
patterns that were asked for, and with the paths of the configuration and the document. -/
inductive GlobalFault (d : Disk) (home : Option Path) (s : Settings) : Prop
  /-- The path of the configuration is blank. -/
  | configPath {failure : Failure} (h : selected d home s = .error failure)
  /-- The configuration is missing, unreadable or malformed. -/
  | configFile {path : Path} (hpath : selected d home s = .ok (some path))
    (h : ∀ config, Resolver.configIn d path ≠ .ok (some config))
  | configRule {path : Path} {config : Config} {spec : RuleSpec} {fault : Rule.Fault}
    (hpath : selected d home s = .ok (some path))
    (hconfig : Resolver.configIn d path = .ok (some config)) (hspec : spec ∈ config.rules)
    (h : Rule.compile spec = .error fault)
  | configPattern {path : Path} {config : Config} {raw : String} {fault : Pattern.Fault}
    (hpath : selected d home s = .ok (some path))
    (hconfig : Resolver.configIn d path = .ok (some config)) (hraw : raw ∈ config.patterns)
    (h : Pattern.read raw = .error fault)
  | extraPattern {raw : String} {fault : Pattern.Fault} (hraw : raw ∈ s.blacklist)
    (h : Pattern.read raw = .error fault)
  /-- The path of the document is blank. -/
  | outputPath {failure : Failure} (h : destination home s = .error failure)

section

variable {d : Disk} {home : Option Path} {s : Settings}

/-- The first configuration that is read for a run is that of the file. -/
theorem of_loadExplicit_empty {dirs : List Path} {path : Path} {loaded : LoadedConfig}
    (h : (Resolver.loadExplicit d path (.empty dirs)).result = .ok loaded) :
  loaded.path = path ∧ Resolver.configIn d path = .ok (some loaded.config)
  := by
  rw [Resolver.loadExplicit_result] at h
  rcases Resolver.loadOnce_cases d (.empty dirs) path with
    ⟨known, hknown, -⟩ | ⟨-, ⟨failure, -, hrun⟩ | ⟨config, hconfig, hrun⟩⟩
  · cases hknown
  · rw [hrun] at h
    cases h
  · rw [hrun] at h
    obtain rfl := Except.ok.inj h
    use rfl, hconfig

/-- So is the first that is looked for. -/
theorem of_loadGlobal_empty {dirs : List Path} {config : Option LoadedConfig}
    (h : (Resolver.loadGlobal d (.empty dirs)).result = .ok config) :
  config.map (·.path) = dirs.findSome? (Resolver.findConfig? d)
    ∧ ∀ loaded, config = some loaded →
      Resolver.configIn d loaded.path = .ok (some loaded.config)
  := by
  cases hfind : dirs.findSome? (Resolver.findConfig? d) with
  | none =>
    rw [Resolver.loadGlobal_of_missing hfind] at h
    obtain rfl := Except.ok.inj h
    simp
  | some path =>
    rw [Resolver.loadGlobal_of_found hfind] at h
    obtain ⟨loaded, hloaded, rfl⟩ := map_eq_ok_iff.mp h
    obtain ⟨rfl, hin⟩ := of_loadExplicit_empty hloaded
    simpa using hin

theorem exitCode_of_loadGlobal {failure : Failure} {task : Option String} {r : Resolver}
    (h : (Resolver.loadGlobal d r).result = .error failure) :
  Complaint.exitCode ⟨task, failure⟩ = 1
  := by
  cases hfind : r.searchDirs.findSome? (Resolver.findConfig? d) with
  | none =>
    rw [Resolver.loadGlobal_of_missing hfind] at h
    cases h
  | some path =>
    rw [Resolver.loadGlobal_of_found hfind] at h
    apply exitCode_of_loadOnce
    rw [← Resolver.loadExplicit_result, map_eq_error_iff.mp h]

/-- Whether a run has left everything as it was when it began. -/
def Untouched (d : Disk) (w : Work) : Prop := w.disk = d ∧ w.sink = none

/-- A complaint before the document is open. -/
def Early (d : Disk) (complaint : Complaint) (w : Work) : Prop :=
  Untouched d w ∧ (complaint.exitCode = 1 ∨ complaint.exitCode = 5)

theorem meets_loadGlobal :
  (loadGlobal home s).Meets (beginning d home s)
    (fun config w => Untouched d w ∧ Given d home s config) (Early d)
  := by
  rw [loadGlobal, Job.meets_bind, Job.meets_get]
  dsimp only
  cases hglobal : s.noGlobalConfig with
  | true =>
    rw [if_pos rfl, Job.meets_bind, Job.meets_tell, Job.meets_pure]
    refine ⟨⟨rfl, rfl⟩, ?_, by simp⟩
    rw [selected, if_pos hglobal]
    rfl
  | false =>
    rw [if_neg (by simp)]
    cases hconfig : s.config with
    | some raw =>
      dsimp only
      rw [Job.meets_bind, Job.meets_orComplain]
      constructor
      · intro path hpath
        rw [Job.meets_bind, Job.meets_perform]
        constructor
        · intro loaded hloaded
          obtain ⟨hsame, hin⟩ := of_loadExplicit_empty hloaded
          refine ⟨⟨rfl, rfl⟩, ?_, ?_⟩
          · rw [selected, if_neg (by simp [hglobal]), hconfig]
            simp [hpath, hsame, Except.map]
          · rintro _ ⟨⟩
            rwa [hsame]
        · intro failure hfailure
          rw [Resolver.loadExplicit_result] at hfailure
          use ⟨rfl, rfl⟩
          left
          apply exitCode_of_loadOnce hfailure
      · intro failure hfailure
        use ⟨rfl, rfl⟩
        right
        apply exitCode_of_expandPath hfailure
    | none =>
      dsimp only
      rw [Job.meets_perform]
      constructor
      · intro config hloaded
        obtain ⟨hfound, hin⟩ := of_loadGlobal_empty hloaded
        refine ⟨⟨rfl, rfl⟩, ?_, hin⟩
        rw [selected, if_neg (by simp [hglobal]), hconfig]
        apply congrArg Except.ok hfound.symm
      · intro failure hfailure
        use ⟨rfl, rfl⟩
        left
        apply exitCode_of_loadGlobal hfailure

/-- A scope that is made of the global configuration has a context at every root. -/
theorem meets_makeScope (config : Option LoadedConfig) (w : Work) :
  (makeScope s config).Meets w
    (fun scope w' => w'.disk = w.disk ∧ w'.sink = w.sink
      ∧ ∃ builtin, Scope.make builtin config s.blacklist = .ok scope)
    (fun complaint w' => w' = w ∧ complaint.exitCode = 1)
  := by
  rw [makeScope, Job.meets_bind, Job.meets_orComplain]
  constructor
  · intro scope hscope
    rw [Job.meets_bind, Job.meets_tell, Job.meets_pure]
    exact ⟨rfl, rfl, _, hscope⟩
  · intro failure hfailure
    use rfl
    apply exitCode_of_content (Scope.ofContent_of_make hfailure)

/-- Whatever is given without a fault cannot be faulty. -/
theorem not_globalFault {config : Option LoadedConfig} {builtin : List String} {scope : Scope}
    {target : Option Path} (hgiven : Given d home s config)
    (hscope : Scope.make builtin config s.blacklist = .ok scope)
    (htarget : destination home s = .ok target) :
  ¬ GlobalFault d home s
  := by
  obtain ⟨hselected, hin⟩ := hgiven
  obtain ⟨hsound, hextra⟩ := Scope.sound_of_make hscope
  -- The file that a fault is about is that of the configuration that was given.
  have hsame {path : Path} (hpath : selected d home s = .ok (some path)) :
      ∃ loaded, config = some loaded ∧ Resolver.configIn d path = .ok (some loaded.config) := by
    obtain ⟨loaded, rfl, rfl⟩ := Option.map_eq_some_iff.mp
      (Except.ok.inj (hselected.symm.trans hpath))
    use loaded, rfl
    apply hin loaded rfl
  rintro (h | ⟨hpath, h⟩ | ⟨hpath, hconfig, hspec, h⟩ | ⟨hpath, hconfig, hraw, h⟩ | ⟨hraw, h⟩ | h)
  · cases h.symm.trans hselected
  · obtain ⟨loaded, -, hconfig⟩ := hsame hpath
    apply h _ hconfig
  · obtain ⟨loaded, rfl, hloaded⟩ := hsame hpath
    cases hconfig.symm.trans hloaded
    obtain ⟨rule, hrule⟩ := (hsound loaded rfl).1 _ hspec
    cases h.symm.trans hrule
  · obtain ⟨loaded, rfl, hloaded⟩ := hsame hpath
    cases hconfig.symm.trans hloaded
    obtain ⟨found, hfound⟩ := (hsound loaded rfl).2 _ hraw
    cases h.symm.trans hfound
  · obtain ⟨found, hfound⟩ := hextra _ hraw
    cases h.symm.trans hfound
  · cases h.symm.trans htarget

/-! ### Up to the opening -/

/-- What a run does before it opens the document: it finds out what applies, and where the
document goes. -/
def setup (home : Option Path) (s : Settings) : Job (Scope × Option Path) := do
  let config ← loadGlobal home s
  let scope ← makeScope s config
  let target ← Job.orComplain none (destination home s)
  return (scope, target)

/-- What a run does then. -/
def produce (s : Settings) (scope : Scope) (target : Option Path) :
    Job (Report × Option Path) := do
  openDocument target
  let report ← writeDocument scope s target
  return (report, target)

theorem aggregate_eq :
  aggregate home s = setup home s >>= fun prepared => produce s prepared.1 prepared.2
  := by
  simp only [aggregate, setup, produce, bind_assoc, pure_bind]

/-- A run gets to the opening of the document only if nothing is wrong with what it is given. -/
theorem meets_setup :
  (setup home s).Meets (beginning d home s)
    (fun prepared w => Untouched d w ∧ ¬ GlobalFault d home s
      ∧ destination home s = .ok prepared.2
      ∧ ∀ root, ∃ above, prepared.1.contextAt root = .ok above)
    (Early d)
  := by
  rw [setup, Job.meets_bind]
  apply meets_loadGlobal.mono _ fun _ _ h => h
  rintro config w ⟨⟨hdisk, hsink⟩, hgiven⟩
  rw [Job.meets_bind]
  apply (meets_makeScope config w).mono
  · rintro scope w' ⟨hdisk', hsink', builtin, hscope⟩
    have huntouched : Untouched d w' := ⟨hdisk'.trans hdisk, hsink'.trans hsink⟩
    rw [Job.meets_bind, Job.meets_orComplain]
    constructor
    · intro target htarget
      rw [Job.meets_pure]
      use huntouched, not_globalFault hgiven hscope htarget, htarget
      intro root
      obtain ⟨above, habove, -⟩ := Scope.contextAt_of_make hscope root
      use above, habove
    · intro failure hfailure
      use huntouched, .inr ?_
      rw [destination] at hfailure
      split at hfailure
      · cases hfailure
      · apply exitCode_of_expandPath (map_eq_error_iff.mp hfailure)
  · rintro complaint w' ⟨rfl, hcode⟩
    use ⟨hdisk, hsink⟩
    left
    apply hcode

/-! ### After the opening -/

/-- The disk with room for the document, and whether it could be made. -/
def withRoom (d : Disk) (path : Path) : Except AccessFault Unit × Disk :=
  match path.parent? with
  | none => (.ok (), d)
  | some above => if above.text.isEmpty then (.ok (), d) else d.makeDirAll above

/-- To make room for the document changes the disk only. -/
theorem meets_makeRoom (path : Path) (w : Work) :
  (makeRoom path).Meets w
    (fun _ w' => (withRoom w.disk path).1 = .ok ()
      ∧ w' = { w with disk := (withRoom w.disk path).2 })
    (fun _ w' => (withRoom w.disk path).1 ≠ .ok () ∧ ∃ disk, w' = { w with disk := disk })
  := by
  rw [makeRoom, withRoom]
  cases path.parent? with
  | none =>
    constructor
    · rfl
    · rfl
  | some above =>
    simp only
    split
    · constructor
      · rfl
      · rfl
    · simp only [Job.meets_bind, Job.meets_get, Job.meets_modify]
      split
      · rename_i hmade
        constructor
        · apply hmade
        · rfl
      · rename_i fault hmade
        simp [hmade]

/-- What is left once the document is open, or why it cannot be opened. -/
theorem meets_openDocument (target : Option Path) (w : Work) :
  (openDocument target).Meets w
    (fun _ w' => match target with
      | none => w' = { w with sink := some (.empty .console ⟨"<stdout>"⟩ generator) }
      | some path => ∃ location disk, (withRoom w.disk path).1 = .ok ()
        ∧ (withRoom w.disk path).2.createFile path = .ok (location, disk)
        ∧ w' = { w with
          disk := disk
          sink := some (.empty (.file location) path generator)
          notices := w.notices ++ [.opened path] })
    (fun _ w' => w'.sink = w.sink ∧ ∀ path, target = some path →
      (withRoom w.disk path).1 = .ok () →
      ∀ found, (withRoom w.disk path).2.createFile path ≠ .ok found)
  := by
  cases target with
  | none => rfl
  | some path =>
    rw [openDocument, Job.meets_bind]
    apply (meets_makeRoom path w).mono
    · rintro _ _ ⟨hroom, rfl⟩
      rw [Job.meets_bind, Job.meets_get]
      cases hmade : (withRoom w.disk path).2.createFile path with
      | error fault =>
        dsimp only
        rw [hmade]
        use rfl
        rintro _ ⟨⟩ - found hfound
        simp [hmade] at hfound
      | ok created =>
        dsimp only
        rw [hmade]
        exact ⟨created.1, created.2, hroom, rfl, rfl⟩
    · rintro complaint _ ⟨hroom, disk, rfl⟩
      use rfl
      rintro _ ⟨⟩ hok
      apply absurd hok hroom

/-- Writing the document comes down to an aggregation into the sink that is open. -/
theorem meets_writeDocument_iff {scope : Scope} {target : Option Path} {w : Work} {k : Sink}
    (hk : w.sink = some k) {outcome : Outcome Scan Report}
    (houtcome : Scan.aggregate w.disk scope (s.paths.map Path.mk) target
      (Scan.start w.resolver k) = outcome)
    {done : Report → Work → Prop} {failed : Complaint → Work → Prop} :
  (writeDocument scope s target).Meets w done failed
    ↔ (∀ report, outcome.result = .ok report →
        done report { w with
          resolver := outcome.state.resolver
          sink := some outcome.state.sink
          notices := w.notices ++ outcome.events.map .event })
      ∧ ∀ failure, outcome.result = .error failure →
        failed ⟨some "Aggregation failed", failure⟩ { w with
          resolver := outcome.state.resolver
          sink := some outcome.state.sink
          notices := w.notices ++ outcome.events.map .event }
  := by
  rw [writeDocument, Job.meets_bind, Job.meets_get, ← houtcome]
  simp only [hk]
  apply Job.meets_perform

/-- Once the document is open, a run fails because of the document or of a directory. -/
theorem meets_produce {scope : Scope} {target : Option Path} {w : Work} (hw : w.sink = none)
    (hscope : ∀ root, ∃ above, scope.contextAt root = .ok above) :
  (produce s scope target).Meets w (fun _ _ => True)
    (fun complaint w' => ∀ k, w'.sink = some k →
      Scan.EndsBy w'.disk k w.resolver complaint.failure)
  := by
  rw [produce, Job.meets_bind]
  apply (meets_openDocument target w).mono
  · intro _ w₁ hopen
    obtain ⟨hresolver, k, hk⟩ : w₁.resolver = w.resolver ∧ ∃ k, w₁.sink = some k := by
      cases target with
      | none =>
        subst hopen
        exact ⟨rfl, _, rfl⟩
      | some path =>
        obtain ⟨location, disk, -, -, rfl⟩ := hopen
        exact ⟨rfl, _, rfl⟩
    rw [Job.meets_bind, meets_writeDocument_iff hk rfl]
    constructor
    · intro _ _
      trivial
    · intro failure hfailure k' hk'
      have hstart : Scan.CameFrom w₁.disk k w.resolver (Scan.start w₁.resolver k) :=
        ⟨rfl, rfl, hresolver ▸ .start⟩
      obtain ⟨hend, hends⟩ :=
        (Scan.risks_aggregate hscope _ _ _ hstart).of_error hfailure
      obtain rfl := Option.some.inj hk'
      rw [Scan.EndsBy, hend.outlet, hend.target]
      apply hends
  · rintro complaint w' ⟨hclosed, -⟩ k hk
    rw [hclosed, hw] at hk
    cases hk

/-- If something is wrong with what applies in the whole run, or with the paths of the
configuration and the document, the run fails without a trace: it prints nothing, and no file or
directory is made or changed.  Once the document is open, there is no such fault: what applies in
the whole run has a context at every root, so that a failure then is one of writing, or that of a
configuration which a directory that is scanned has of its own. -/
theorem run_global_fault (d : Disk) (home : Option Path) {arguments : List String} {s : Settings}
    (hs : Settings.read arguments = .run s) :
  (GlobalFault d home s →
      ((run d home arguments).code = 1 ∨ (run d home arguments).code = 5)
        ∧ (run d home arguments).stdout = [] ∧ (run d home arguments).disk = d)
    ∧ ∀ complaint w k, (aggregate home s).outcome (beginning d home s) = (.error complaint, w) →
      w.sink = some k →
      ¬ GlobalFault d home s
        ∧ ∃ scope target w₀,
          (setup home s).outcome (beginning d home s) = (.ok (scope, target), w₀)
            ∧ (∀ root, ∃ above, scope.contextAt root = .ok above)
            ∧ ((∃ fault, complaint.failure = .writing k.target fault)
              ∨ Resolver.OwnFault (Scan.SeenThrough w.disk k.outlet) w₀.resolver
                complaint.failure)
  := by
  rw [run_eq hs, runSettings_eq, aggregate_eq, Job.outcome_bind]
  have hsetup : (setup home s).Meets (beginning d home s) _ _ := meets_setup
  rcases hprepared : (setup home s).outcome (beginning d home s) with ⟨complaint | prepared, w₀⟩
  · obtain ⟨⟨hdisk, hsink⟩, hcode⟩ := hsetup.of_outcome.2 _ hprepared
    constructor
    · intro _
      use hcode
      simp [conclude, Work.printed, Work.finalDisk, hsink, hdisk]
    · rintro complaint' w k ⟨⟩ hk
      cases hsink.symm.trans hk
  · obtain ⟨⟨-, hsink⟩, hfault, -, hscope⟩ := hsetup.of_outcome.1 _ hprepared
    use fun h => absurd h hfault
    intro complaint w k hproduced hk
    use hfault, prepared.1, prepared.2, w₀, rfl, hscope
    exact (meets_produce hsink hscope).of_outcome.2 _ hproduced k hk

/-- With a bracket for a pattern, not even the directory for the document is made. -/
theorem run_global_fault_bracket :
  ∃ s, Settings.read ["-b", "[", "-o", "new/out.md", "."] = .run s
    ∧ GlobalFault Scan.sampleDisk none s
    ∧ (run Scan.sampleDisk none ["-b", "[", "-o", "new/out.md", "."]).stdout = []
    ∧ (run Scan.sampleDisk none ["-b", "[", "-o", "new/out.md", "."]).disk = Scan.sampleDisk
  := by
  have hs : Settings.read ["-b", "[", "-o", "new/out.md", "."]
      = .run { Settings.none with
        paths := ["."], output := some "new/out.md", blacklist := ["["] } := by cbv
  have hread : ∃ fault, Pattern.read "[" = .error fault := by
    have herror : (Pattern.read "[").toOption = none := by cbv
    cases hread : Pattern.read "[" with
    | error fault => exact ⟨fault, rfl⟩
    | ok found => simp [hread, Except.toOption] at herror
  obtain ⟨fault, hfault⟩ := hread
  have hglobal : GlobalFault Scan.sampleDisk none { Settings.none with
      paths := ["."], output := some "new/out.md", blacklist := ["["] } :=
    .extraPattern (List.mem_singleton_self "[") hfault
  exact ⟨_, hs, hglobal, ((run_global_fault Scan.sampleDisk none hs).1 hglobal).2⟩

end

end Compendium.Command
