import Compendium.Proofs.Command.Written
import Compendium.Proofs.Scan.Isolation

/-!
# Writing over an earlier document

A run makes room for its document without regard to the file of the document, and empties that
file before it looks at the rest of the disk.  So on disks that differ in this file only, a run
that succeeds on one of them does the same on the other.  When a run is repeated, the directory
that it has made for its document is there as well, which can make a difference.
-/

namespace Compendium.Command

section

variable {d e : Disk} {home : Option Path} {s : Settings}

/-! ### A run that succeeds -/

theorem exitCode_ne_zero (complaint : Complaint) :
  complaint.exitCode ≠ 0
  := by
  rw [Complaint.exitCode]
  split <;> simp

theorem code_eq_zero_iff :
  (runSettings d home s).code = 0
    ↔ ∃ ended w, (aggregate home s).outcome (beginning d home s) = (.ok ended, w)
  := by
  rw [runSettings_eq]
  rcases (aggregate home s).outcome (beginning d home s) with ⟨complaint | ⟨report, target⟩, w⟩
  · simp [conclude, exitCode_ne_zero]
  · simp [conclude]

/-- A document goes to the file that has been opened, and the rest of the disk stays. -/
theorem meets_writeDocument {scope : Scope}
    (hscope : ∀ root, ∃ above, scope.contextAt root = .ok above) (target : Option Path) {w : Work}
    {k : Sink} (hk : w.sink = some k) :
  (writeDocument scope s target).Meets w
    (fun _ w' => w'.disk = w.disk ∧ ∃ k', w'.sink = some k' ∧ k'.outlet = k.outlet)
    (fun _ w' => w'.disk = w.disk ∧ ∃ k', w'.sink = some k' ∧ k'.outlet = k.outlet)
  := by
  have hstart : Scan.CameFrom w.disk k w.resolver (Scan.start w.resolver k) := ⟨rfl, rfl, .start⟩
  have hrisks := Scan.risks_aggregate hscope (s.paths.map Path.mk) target _ hstart
  rw [meets_writeDocument_iff hk rfl]
  constructor
  · intro report hreport
    exact ⟨rfl, _, rfl, (hrisks.of_ok hreport).outlet⟩
  · intro failure hfailure
    exact ⟨rfl, _, rfl, (hrisks.of_error hfailure).1.outlet⟩

theorem exists_outcome_writeDocument {scope : Scope} {target : Option Path} {w : Work} {k : Sink}
    (hk : w.sink = some k) {report : Report}
    (hok : (Scan.aggregate w.disk scope (s.paths.map Path.mk) target
      (Scan.start w.resolver k)).result = .ok report) :
  ∃ w', (writeDocument scope s target).outcome w = (.ok report, w')
  := by
  have hmeets : (writeDocument scope s target).Meets w (fun found _ => found = report)
      (fun _ _ => False) := by
    rw [meets_writeDocument_iff hk rfl]
    constructor
    · intro found hfound
      apply Except.ok.inj (hfound.symm.trans hok)
    · intro failure hfailure
      cases hfailure.symm.trans hok
  rcases houtcome : (writeDocument scope s target).outcome w with ⟨complaint | found, w'⟩
  · apply (hmeets.of_outcome.2 _ houtcome).elim
  · obtain rfl := hmeets.of_outcome.1 _ houtcome
    exact ⟨w', rfl⟩

section

variable {p : Path} {d₁ : Disk} {l : Location} {scope : Scope} {w₀ w : Work} {report : Report}

theorem outcome_aggregate
    (hprepared : (setup home s).outcome (beginning d home s) = (.ok (scope, some p), w₀))
    (hopens : Opens w₀.disk p d₁ l)
    (hwrite : (writeDocument scope s (some p)).outcome (opened p d₁ l w₀) = (.ok report, w)) :
  (aggregate home s).outcome (beginning d home s) = (.ok (report, some p), w)
  := by
  rw [aggregate_eq, Job.outcome_bind, hprepared]
  dsimp only
  rw [produce, Job.outcome_bind, outcome_openDocument hopens]
  dsimp only
  rw [Job.outcome_bind, hwrite]
  rfl

variable (hstdout : s.stdout = false) (hp : expandPath home s.outputFile = .ok p)
  (hcode : (runSettings d home s).code = 0)

include hstdout hp hcode

/-- A run that succeeds finds out what applies, opens its document and writes it. -/
theorem exists_prepared :
  ∃ scope w₀ d₁ l report w,
    (setup home s).outcome (beginning d home s) = (.ok (scope, some p), w₀)
      ∧ w₀.disk = d ∧ Opens d p d₁ l
      ∧ (writeDocument scope s (some p)).outcome (opened p d₁ l w₀) = (.ok report, w)
      ∧ ∃ bytes, w.finalDisk = d₁.withBytes l bytes
  := by
  obtain ⟨ended, w, hrun⟩ := code_eq_zero_iff.mp hcode
  rw [aggregate_eq, Job.outcome_bind] at hrun
  rcases hprepared : (setup home s).outcome (beginning d home s) with
    ⟨complaint | ⟨scope, target⟩, w₀⟩
  · simp [hprepared] at hrun
  obtain ⟨⟨rfl, -⟩, -, htarget, hscope⟩ := meets_setup.of_outcome.1 _ hprepared
  rw [destination, hstdout, hp] at htarget
  obtain rfl : some p = target := by simpa [Except.map] using htarget
  rw [hprepared] at hrun
  dsimp only at hrun
  rw [produce, Job.outcome_bind] at hrun
  rcases hopen : (openDocument (some p)).outcome w₀ with ⟨complaint | _, w₁⟩
  · simp [hopen] at hrun
  obtain ⟨d₁, l, hopens⟩ := exists_opens_of_outcome hopen
  rw [outcome_openDocument hopens] at hrun
  dsimp only at hrun
  rw [Job.outcome_bind] at hrun
  rcases hwrite : (writeDocument scope s (some p)).outcome (opened p d₁ l w₀) with
    ⟨complaint | report, w₂⟩
  · simp [hwrite] at hrun
  use scope, w₀, d₁, l, report, w₂, rfl, rfl, hopens, hwrite
  obtain ⟨hdisk, k, hk, houtlet⟩ :=
    (meets_writeDocument hscope (some p) rfl).of_outcome.1 _ hwrite
  use k.drained.accepted
  have hfile : k.drained.outlet = .file l := houtlet
  rw [Work.finalDisk, hk]
  dsimp only
  rw [Sink.seenDisk, hfile, hdisk]
  apply Disk.withBytes_withBytes [] _

/-- Where the document of a run that succeeds is, and what makes another disk give the same. -/
theorem exists_opens :
  ∃ d₁ l bytes, Opens d p d₁ l ∧ (runSettings d home s).disk = d₁.withBytes l bytes
    ∧ ∀ e e₁, SameGlobal d e home s → Opens e p e₁ l → e₁.withBytes l [] = d₁.withBytes l [] →
      runSettings e home s = runSettings d home s
  := by
  obtain ⟨scope, w₀, d₁, l, report, w, hprepared, hdisk, hopens, hwrite, bytes, hbytes⟩ :=
    exists_prepared hstdout hp hcode
  have hrun : runSettings d home s = conclude s (.ok (report, some p)) w := by
    rw [runSettings_eq, outcome_aggregate hprepared (hdisk ▸ hopens) hwrite]
  use d₁, l, bytes, hopens
  rw [hrun]
  use hbytes
  intro e e₁ hsame hopens' hwritten
  have hprepared' := outcome_setup_of_same hsame hprepared
  have hopened : opened p e₁ l { w₀ with disk := e } = opened p d₁ l w₀ := by
    rw [opened, opened, hwritten]
  rw [runSettings_eq, outcome_aggregate hprepared' hopens' (hopened ▸ hwrite)]

variable (hd : d.WellFormed) (hfree : d.LinkFree) {l : Location}
  (hl : (runSettings d home s).disk.locate .content p = .ok l)

include hd hfree hl

/-- The document is where its path leads to in the end. -/
theorem exists_opens_at :
  ∃ d₁ bytes, Opens d p d₁ l ∧ d₁.root.kindAt d₁.here = some .dir
    ∧ (runSettings d home s).disk = d₁.withBytes l bytes
    ∧ ∀ e e₁, SameGlobal d e home s → Opens e p e₁ l → e₁.withBytes l [] = d₁.withBytes l [] →
      runSettings e home s = runSettings d home s
  := by
  obtain ⟨d₁, l', bytes, hopens, hdisk, hsame⟩ := exists_opens hstdout hp hcode
  have hhere₁ : d₁.root.kindAt d₁.here = some .dir := by
    rw [hopens.keeps.here]
    apply (hopens.keeps.kindAt_dir hd.here).2
  obtain ⟨-, -, -, hcontent, -⟩ := Disk.keeps_made hhere₁ (hopens.keeps.linkFree hfree)
    (hopens.writable hfree) hopens.way bytes
  rw [hdisk] at hl
  obtain rfl : l = l' := Except.ok.inj (hl.symm.trans hcontent)
  use d₁, bytes, hopens, hhere₁, hdisk, hsame

/-- A run does the same if another thing was in the file of the document, or nothing. -/
theorem runSettings_alike (hapart : Apart d home s l) {d' : Disk} (hd' : d'.WellFormed)
    (halike : Disk.AlikeBut l d d') :
  runSettings d' home s = runSettings d home s
  := by
  obtain ⟨d₁, bytes, hopens, -, -, hsame⟩ := exists_opens_at hstdout hp hcode hd hfree hl
  have habout := halike.alikeAbout hd hd'
  obtain ⟨e₁, hopens', hwritten⟩ := hopens.alike habout hfree hd.here
  apply hsame d' e₁ _ hopens' hwritten
  apply sameGlobal_of_keeps habout.keeps hfree hapart
  intro dir _ file hname
  apply habout.back.isFile_config (habout.keeps.linkFree hfree) hapart.name hname

end

end

/-! ### A document among its own arguments -/

/-- Arguments of a run that is to write `y` and is asked for `y` and for a file of `b`. -/
def ownArguments : List String :=
  ["--no-builtin-ignore", "--no-global-config", "-o", "y", "y", "b/x"]

/-- The settings that they stand for. -/
def ownSettings : Settings :=
  { Settings.none with
    paths := ["y", "b/x"]
    output := some "y"
    noGlobalConfig := true
    noBuiltinIgnore := true }

/-- The disk on which the run takes place. -/
def ownDisk : Disk := Scan.siblingDisk Scan.plainEntries

theorem read_ownArguments :
  Settings.read ownArguments = .run ownSettings
  := by cbv

theorem ownDisk_wellFormed :
  ownDisk.WellFormed
  := Scan.siblingDisk_wellFormed Scan.siblingEntries_wellFormed.1

theorem ownDisk_linkFree :
  ownDisk.LinkFree
  := Scan.siblingDisk_linkFree Scan.siblingEntries_isFile.1

theorem ownDisk_opens :
  Opens ownDisk ⟨"y"⟩ ownDisk [['y']]
  := opens_of_locate rfl ownDisk_linkFree (.inr rfl) (by cbv)

/-- The state of the run when it opens its document. -/
def ownWork : Work :=
  { beginning ownDisk none ownSettings with
    notices := (beginning ownDisk none ownSettings).notices ++ [.globalDisabled, .patterns []] }

theorem ownDisk_writes :
  ∃ report w, (writeDocument .empty ownSettings (some ⟨"y"⟩)).outcome
    (opened ⟨"y"⟩ ownDisk [['y']] ownWork) = (.ok report, w)
  := by
  have hshape := Disk.sameShape_withBytes ownDisk_wellFormed
    (rfl : ownDisk.root.kindAt [['y']] = some .file) []
  have hready : Scan.Ready (ownDisk.withBytes [['y']] []) none
      (Scan.start ownWork.resolver (.empty (.file [['y']]) ⟨"y"⟩ generator)) := by
    have hfree : (ownDisk.withBytes [['y']] []).LinkFree := by
      intro l target
      rw [hshape.kindAt]
      apply ownDisk_linkFree l target
    use hshape.wellFormed ownDisk_wellFormed, Resolver.faithful_empty _ _, rfl
    · rintro location ⟨⟩
      rfl
    · rintro location ⟨⟩ path hpath
      apply Resolver.IsConfig.locate_ne hfree (by decide) hpath
  have hdirs : (ownDisk.withBytes [['y']] []).isDir ⟨"y"⟩ = false
      ∧ (ownDisk.withBytes [['y']] []).isDir ⟨"b/x"⟩ = false := ⟨by cbv, by cbv⟩
  have hfiles : (ownDisk.withBytes [['y']] []).isFile ⟨"y"⟩ = true
      ∧ (ownDisk.withBytes [['y']] []).isFile ⟨"b/x"⟩ = true := ⟨by cbv, by cbv⟩
  have hcontext (root : Path) : Scope.empty.contextAt root = .ok .empty := rfl
  have hplain (path : Path) : Context.empty.patterns.isIgnored path false = false := rfl
  obtain ⟨report, hok⟩ := Scan.aggregate_succeeds hready .empty [⟨"y"⟩, ⟨"b/x"⟩] (some ⟨"y"⟩)
    (by simp [Sink.Boundless, Scan.start, Sink.empty]) (by simp [Scan.start, Sink.empty])
    (by simp [Scan.argumentsVisits, Scan.argumentVisits, Scan.askedVisits, hdirs, hfiles, hcontext,
      hplain])
  use report
  apply exists_outcome_writeDocument rfl hok

theorem ownDisk_run :
  (run ownDisk none ownArguments).code = 0
    ∧ (run ownDisk none ownArguments).disk.locate .content ⟨"y"⟩ = .ok [['y']]
  := by
  have hprepared : (setup none ownSettings).outcome (beginning ownDisk none ownSettings)
      = (.ok (.empty, some ⟨"y"⟩), ownWork) :=
    outcome_setup (outcome_loadGlobal_of_disabled rfl _) rfl (by cbv)
  obtain ⟨report, w, hwrite⟩ := ownDisk_writes
  have hcode : (runSettings ownDisk none ownSettings).code = 0 :=
    code_eq_zero_iff.mpr ⟨_, w, outcome_aggregate hprepared ownDisk_opens hwrite⟩
  rw [run_eq read_ownArguments]
  use hcode
  have hp : expandPath none ownSettings.outputFile = .ok ⟨"y"⟩ := rfl
  obtain ⟨d₁, l, bytes, hopens, hdisk, -⟩ := exists_opens rfl hp hcode
  obtain rfl : ownDisk = d₁ := congrArg Prod.snd (ownDisk_opens.room.symm.trans hopens.room)
  obtain rfl : l = [['y']] := Except.ok.inj (hopens.way.symm.trans ownDisk_opens.way)
  obtain ⟨-, -, -, hcontent, -⟩ :=
    Disk.keeps_made rfl ownDisk_linkFree (.inr rfl) ownDisk_opens.way bytes
  rw [hdisk]
  apply hcontent

/-- The disk without its document. -/
def bareDisk : Disk := ⟨ownDisk.root.removeAt [['y']], []⟩

theorem bareDisk_wellFormed :
  bareDisk.WellFormed
  := by
  have hb : Name.Valid ['b'] := by constructor <;> decide
  constructor
  · change Node.WellFormed (.dir (.cons ['b'] (.dir Scan.plainEntries) .nil))
    simp only [Node.WellFormed, Entries.WellFormed, hb, Scan.siblingEntries_wellFormed.1,
      Entries.names_nil, true_and, and_true]
    decide
  · rfl

theorem bareDisk_alikeBut :
  Disk.AlikeBut [['y']] ownDisk bareDisk
  := ⟨rfl, rfl, .inr rfl, .inl rfl, .inl rfl⟩

section

variable {d : Disk} {home : Option Path} {s : Settings}

/-! ### Running over what was there -/

/-- What was in the file of the document, or whether it was there, makes no difference to a run
that succeeds: on a disk that is the same but for this file, the run succeeds as well, prints the
same, and leaves the same disk, with the same document on it.  So such a run can be repeated, if
the directory of the document was there, or if no directory that is made for it can lead to the
home directory. -/
theorem run_overwrites {arguments : List String} (hs : Settings.read arguments = .run s)
    (hstdout : s.stdout = false) {p : Path} (hp : expandPath home s.outputFile = .ok p)
    (hd : d.WellFormed) (hfree : d.LinkFree) (hcode : (run d home arguments).code = 0)
    {l : Location} (hl : (run d home arguments).disk.locate .content p = .ok l)
    (hapart : Apart d home s l) :
  (∀ d', d'.WellFormed → Disk.AlikeBut l d d' →
      run d' home arguments = run d home arguments)
    ∧ ((d.locate .making p = .ok l
        ∨ ∀ path, home = some path →
          d.isDir path = true ∨ .up ∉ Disk.steps path.text.toList) →
      run (run d home arguments).disk home arguments = run d home arguments)
  := by
  simp only [run_eq hs] at hcode hl ⊢
  constructor
  · intro d' hd' halike
    apply runSettings_alike hstdout hp hcode hd hfree hl hapart hd' halike
  · intro hsteady
    obtain ⟨d₁, bytes, hopens, hhere₁, hdisk, hsame⟩ :=
      exists_opens_at hstdout hp hcode hd hfree hl
    rw [hdisk]
    have hfree₁ := hopens.keeps.linkFree hfree
    obtain ⟨hkeeps, hback, hfile, -, hmaking⟩ :=
      Disk.keeps_made hhere₁ hfree₁ (hopens.writable hfree) hopens.way bytes
    have hkept := (hopens.keeps.hiding (hopens.writable hfree)).trans hkeeps
    have hhere : (d₁.withBytes l bytes).root.kindAt (d₁.withBytes l bytes).here = some .dir := by
      rw [hkeeps.here]
      apply (hkeeps.kindAt_dir hhere₁).2
    have hopens' := opens_of_locate hhere (hkept.linkFree hfree) (.inr hfile) hmaking
    apply hsame _ _ _ hopens' (Disk.withBytes_withBytes bytes [])
    apply sameGlobal_of_keeps hkept hfree hapart
    intro dir hdir file hname
    rcases hsteady with hmade | hhome
    · have hroom := (opens_of_locate hd.here hfree (hkept.left l rfl) hmade).room
      obtain rfl : d = d₁ := congrArg Prod.snd (hroom.symm.trans hopens.room)
      apply hback.isFile_config (hkept.linkFree hfree) hapart.name hname
    · apply hkept.isFile_config_back hfree hapart.name hname
      apply Resolver.steady_of_mem_defaultDirs hd hhome hdir

/-- The document comes out the same if it was not there, and if it is written once more. -/
theorem run_overwrites_own :
  run bareDisk none ownArguments = run ownDisk none ownArguments
    ∧ run (run ownDisk none ownArguments).disk none ownArguments = run ownDisk none ownArguments
  := by
  have hp : expandPath none ownSettings.outputFile = .ok ⟨"y"⟩ := rfl
  have hapart : Apart ownDisk none ownSettings [['y']] :=
    ⟨by decide, by simp [ownSettings, Settings.none]⟩
  obtain ⟨halike, hrepeat⟩ := run_overwrites read_ownArguments rfl hp ownDisk_wellFormed
    ownDisk_linkFree ownDisk_run.1 ownDisk_run.2 hapart
  use halike bareDisk bareDisk_wellFormed bareDisk_alikeBut
  apply hrepeat (.inl (by cbv))

end

/-! ### Where repeating makes a difference -/

/-- A disk with a configuration in `b`, where the file `x` is as well. -/
def homeDisk : Disk := Scan.siblingDisk Scan.ignoringEntries

/-- The disk with room for a document at `n/f`. -/
def homeRoomDisk : Disk :=
  ⟨.dir (.cons ['b'] (.dir Scan.ignoringEntries)
    (.cons ['n'] .emptyDir (.cons ['y'] (.file [105]) .nil))), []⟩

/-- A path that leads to `b` as the home directory, but only once there is room for the
document. -/
def homePath : Path := ⟨"/n/../b"⟩

/-- Arguments of a run that is to write `n/f` and is asked for the file `x` in `b`. -/
def homeArguments : List String := ["--no-builtin-ignore", "-o", "n/f", "b/x"]

/-- The settings that they stand for. -/
def homeSettings : Settings :=
  { Settings.none with paths := ["b/x"], output := some "n/f", noBuiltinIgnore := true }

theorem read_homeArguments :
  Settings.read homeArguments = .run homeSettings
  := by cbv

theorem homeDisk_wellFormed :
  homeDisk.WellFormed
  := Scan.siblingDisk_wellFormed Scan.siblingEntries_wellFormed.2

theorem homeDisk_linkFree :
  homeDisk.LinkFree
  := Scan.siblingDisk_linkFree Scan.siblingEntries_isFile.2

theorem homeDisk_opens :
  Opens homeDisk ⟨"n/f"⟩ homeRoomDisk [['n'], ['f']]
  := by
  have habove : (⟨"n/f"⟩ : Path).parent? = some ⟨"n"⟩ := by decide
  apply opens_of_makeDir habove rfl
  · cbv
  · cbv
  · decide

theorem homeRoomDisk_opens :
  Opens homeRoomDisk ⟨"n/f"⟩ homeRoomDisk [['n'], ['f']]
  := opens_of_locate rfl (homeDisk_opens.keeps.linkFree homeDisk_linkFree) (.inl rfl) (by cbv)

/-- No configuration is in the working directory. -/
theorem homeDisk_findConfig? :
  Resolver.findConfig? homeDisk ⟨"/"⟩ = none ∧ Resolver.findConfig? homeRoomDisk ⟨"/"⟩ = none
  := by
  have hnode : homeDisk.node? ⟨"/"⟩ = .ok homeDisk.root := by cbv
  have hnode' : homeRoomDisk.node? ⟨"/"⟩ = .ok homeRoomDisk.root := by cbv
  constructor
  · apply Resolver.findConfig?_eq_none hnode
    decide
  · apply Resolver.findConfig?_eq_none hnode'
    decide

/-- The paths to the home directory and to what is below it start with a name that is not there. -/
theorem homeDisk_missing :
  (Resolver.defaultDirs (Disk.pathOf homeDisk.here) (some homePath)).findSome?
    (Resolver.findConfig? homeDisk) = none
  := by
  have hhead : ∀ dir ∈ (Resolver.defaultDirs (Disk.pathOf []) (some homePath)).tail,
      ∀ file ∈ Config.fileNames,
        (Disk.steps (dir.entry file.toList).text.toList).head? = some (.name ['n'])
          ∧ Disk.start (dir.entry file.toList).text.toList [] = [] := by
    decide
  rw [List.findSome?_eq_none_iff]
  intro dir hdir
  rcases List.mem_cons.mp hdir with rfl | hhome
  · apply homeDisk_findConfig?.1
  · rw [Resolver.findConfig?, List.find?_eq_none]
    intro path hpath
    obtain ⟨file, hfile, rfl⟩ := List.mem_map.mp hpath
    obtain ⟨hsteps, hstart⟩ := hhead dir hhome file hfile
    rw [Bool.not_eq_true]
    apply Disk.isFile_eq_false_of_head? _ hsteps
    · change homeDisk.root.kindAt (Disk.start _ [] ++ _) = none
      rw [hstart]
      rfl
    · change homeDisk.root.kindAt (Disk.start _ []) = some .dir
      rw [hstart]
      rfl

/-- The configuration in `b`, by its path from the home directory. -/
def homeLoaded : LoadedConfig := ⟨⟨"/n/../b/maid.json"⟩, ⟨["x"], []⟩⟩

/-- Once there is room for the document, the path leads to the configuration. -/
theorem homeRoomDisk_read :
  homeRoomDisk.read homeLoaded.path = .ok (Text.bytesOf Scan.siblingConfig)
  := by
  have hsteps : Disk.steps homeLoaded.path.text.toList
      = [.name ['n'], .up, .name ['b'], .name Scan.siblingName] := by decide
  have hstart : Disk.start homeLoaded.path.text.toList homeRoomDisk.here = [] := by decide
  have hway : Disk.follow homeRoomDisk.root .content Disk.linkLimit []
      [.name ['n'], .up, .name ['b'], .name Scan.siblingName] = .ok [['b'], Scan.siblingName] := by
    rw [Disk.follow]
    change Disk.follow _ .content _ [['n']] _ = _
    rw [Disk.follow]
    change Disk.follow _ .content _ [] _ = _
    rw [Disk.follow]
    change Disk.follow _ .content _ [['b']] _ = _
    rw [Disk.follow]
    change Disk.follow _ .content _ [['b'], Scan.siblingName] _ = _
    rw [Disk.follow]
  apply Disk.read_eq_ok_iff.mpr
  use [['b'], Scan.siblingName]
  constructor
  · apply Disk.locate_eq_ok_iff.mpr
    rw [hsteps, hstart]
    use by decide, by decide, by decide
  · rfl

theorem homeRoomDisk_found :
  (Resolver.defaultDirs (Disk.pathOf homeRoomDisk.here) (some homePath)).findSome?
    (Resolver.findConfig? homeRoomDisk) = some homeLoaded.path
  := by
  have hpath : homePath.entry "maid.json".toList = homeLoaded.path := by decide
  have hfind : Resolver.findConfig? homeRoomDisk homePath = some homeLoaded.path := by
    rw [Resolver.findConfig?, Config.fileNames, List.map_cons, hpath]
    apply List.find?_cons_of_pos (Disk.isFile_iff.mpr ⟨_, homeRoomDisk_read⟩)
  have hnone : Resolver.findConfig? homeRoomDisk (Disk.pathOf homeRoomDisk.here) = none :=
    homeDisk_findConfig?.2
  rw [Resolver.defaultDirs, List.findSome?_cons, hnone]
  dsimp only
  rw [List.findSome?_cons, hfind]

/-- What a run writes to the new file, by what becomes of the file that it is asked for. -/
theorem home_run {d : Disk} (hd : d.WellFormed) (hfree : d.LinkFree)
    (hopens : Opens d ⟨"n/f"⟩ homeRoomDisk [['n'], ['f']])
    (hnew : d.root.kindAt [['n'], ['f']] = none)
    (hlocate : d.locate .content ⟨"b/x"⟩ = .ok [['b'], ['x']])
    {config : Option LoadedConfig} {scope : Scope}
    (hload : (Resolver.loadGlobal d
      (.empty (Resolver.defaultDirs (Disk.pathOf d.here) (some homePath)))).result = .ok config)
    (hscope : Scope.make [] config [] = .ok scope)
    {deed : Scan.Deed} (hdeed : deed.stops = false)
    (hdeeds : ∀ key, Scan.dueDeeds d key scope none [⟨"b/x"⟩] = [deed]) :
  (runSettings d (some homePath) homeSettings).code = 0
    ∧ (runSettings d (some homePath) homeSettings).disk
      = homeRoomDisk.withBytes [['n'], ['f']]
        (Text.bytesOf (Document.header generator) ++ deed.bytes)
  := by
  have htarget : destination (some homePath) homeSettings = .ok (some ⟨"n/f"⟩) := rfl
  obtain ⟨w, hsetup, hresolver⟩ := exists_outcome_setup (s := homeSettings) rfl rfl hload hscope
    htarget
  have hcurrent : w.resolver.Current d := by
    rw [hresolver]
    apply (Resolver.current_empty _ d).asked Resolver.asked_loadGlobal
  have haside : ∀ raw ∈ homeSettings.paths, Scan.LeadsAside [['n'], ['f']] d
      (homeRoomDisk.withBytes [['n'], ['f']] []) ⟨raw⟩ := by
    intro raw hraw
    obtain rfl := List.mem_singleton.mp hraw
    have hlocate' : (homeRoomDisk.withBytes [['n'], ['f']] []).locate .content ⟨"b/x"⟩
        = .ok [['b'], ['x']] := by cbv
    intro m hm
    obtain rfl := Except.ok.inj (hlocate'.symm.trans hm)
    use hlocate
    decide
  obtain ⟨hdisk, hcode, -⟩ :=
    runSettings_file hsetup hd hcurrent hfree hopens hnew (by decide) haside
  have hdue : Scan.dueDeeds d w.resolver.globalKey scope none (homeSettings.paths.map Path.mk)
      = [deed] := hdeeds _
  constructor
  · apply hcode
    rw [hdue, Scan.goes_iff_stops]
    simpa using hdeed
  · rw [hdisk, document, hdue, Scan.delivered_cons, hdeed]
    simp [Scan.delivered]

/-- The first run finds no configuration, and puts the file into its document. -/
theorem homeDisk_run :
  ∃ block, block ≠ []
    ∧ (runSettings homeDisk (some homePath) homeSettings).code = 0
    ∧ (runSettings homeDisk (some homePath) homeSettings).disk
      = homeRoomDisk.withBytes [['n'], ['f']]
        (Text.bytesOf (Document.header generator) ++ block)
  := by
  have hload : (Resolver.loadGlobal homeDisk
      (.empty (Resolver.defaultDirs (Disk.pathOf homeDisk.here) (some homePath)))).result
        = .ok none := by
    rw [Resolver.loadGlobal_of_missing homeDisk_missing]
  have hread : homeDisk.read ⟨"b/x"⟩ = .ok [104] := by cbv
  have hcontext (root : Path) : Scope.empty.contextAt root = .ok .empty := rfl
  have hplain : Context.empty.patterns.isIgnored ⟨"b/x"⟩ false = false := rfl
  have hdeeds (key : Option Path) : Scan.dueDeeds homeDisk key .empty none [⟨"b/x"⟩]
      = [.add ⟨"b/x"⟩ (Scan.inclusionOf ⟨"x"⟩ .empty (.ofBytes [104]))
        (Scan.blockOf ⟨"b/x"⟩ ⟨"x"⟩ .empty (.ofBytes [104]))] := by
    rw [Scan.dueDeeds, Scan.argumentsVisits_of_isFile _ _ (Disk.isFile_iff.mpr ⟨_, hread⟩)]
    simp only [hcontext, Scan.askedVisits, hplain]
    change [Scan.fileDeed homeDisk [] ⟨"b/x"⟩ ⟨"x"⟩ .empty] = _
    rw [Scan.fileDeed, hread]
    rfl
  obtain ⟨hcode, hdisk⟩ := home_run homeDisk_wellFormed homeDisk_linkFree homeDisk_opens rfl
    (by cbv) hload rfl rfl hdeeds
  refine ⟨_, ?_, hcode, hdisk⟩
  apply Scan.Drawn.block_ne (p := ⟨_, _, _⟩) ⟨_, _, _, hread, rfl, rfl⟩

/-- With room for the document there is a configuration, by which the file is ignored. -/
theorem homeRoomDisk_run :
  (runSettings homeRoomDisk (some homePath) homeSettings).code = 0
    ∧ (runSettings homeRoomDisk (some homePath) homeSettings).disk
      = homeRoomDisk.withBytes [['n'], ['f']] (Text.bytesOf (Document.header generator))
  := by
  have hload : (Resolver.loadGlobal homeRoomDisk
      (.empty (Resolver.defaultDirs (Disk.pathOf homeRoomDisk.here) (some homePath)))).result
        = .ok (some homeLoaded) := by
    have hconfig : Resolver.configAt homeRoomDisk homeLoaded.path = .ok homeLoaded.config := by
      rw [Resolver.configAt, homeRoomDisk_read]
      apply Scan.siblingConfig_read
    rw [Resolver.loadGlobal_of_found homeRoomDisk_found, Resolver.loadExplicit_result,
      Resolver.loadOnce_of_unknown rfl, hconfig]
    rfl
  have hscope : Scope.make [] (some homeLoaded) [] = .ok ⟨[], some homeLoaded, [], .empty⟩ := by
    cbv
  have hfile : homeRoomDisk.isFile ⟨"b/x"⟩ = true := by cbv
  obtain ⟨above, habove, hignored⟩ : ∃ above,
      (Scope.mk [] (some homeLoaded) [] .empty).contextAt ⟨"b"⟩ = .ok above
        ∧ above.patterns.isIgnored ⟨"b/x"⟩ false = true := by
    have hmap : ((Scope.mk [] (some homeLoaded) [] .empty).contextAt ⟨"b"⟩).toOption.map
        (fun context => context.patterns.isIgnored ⟨"b/x"⟩ false) = some true := by cbv
    obtain ⟨above, habove, hignored⟩ := Option.map_eq_some_iff.mp hmap
    use above, toOption_eq_some_iff.mp habove
  have hdeeds (key : Option Path) : Scan.dueDeeds homeRoomDisk key
      ⟨[], some homeLoaded, [], .empty⟩ none [⟨"b/x"⟩] = [.skip ⟨"b/x"⟩] := by
    have hparent : ((⟨"b/x"⟩ : Path).parent?.getD ⟨""⟩) = ⟨"b"⟩ := by cbv
    rw [Scan.dueDeeds, Scan.argumentsVisits_of_isFile _ _ hfile, hparent, habove]
    simp only [Scan.askedVisits, hignored]
    rfl
  obtain ⟨hcode, hdisk⟩ := home_run (homeDisk_opens.wellFormed homeDisk_wellFormed)
    (homeDisk_opens.keeps.linkFree homeDisk_linkFree) homeRoomDisk_opens rfl (by cbv) hload hscope
    rfl hdeeds
  use hcode
  rw [hdisk]
  apply congrArg _ (List.append_nil _)

/-- A run can make the directory of its document, and with it a way to the home directory, so that
a configuration is found when the run is repeated; then the document is another.  And a run that is
asked for the version does not look at the file that it is given for its document. -/
theorem overwriting_matters :
  (homeDisk.WellFormed ∧ homeDisk.LinkFree ∧ Settings.read homeArguments = .run homeSettings
      ∧ Apart homeDisk (some homePath) homeSettings [['n'], ['f']]
      ∧ (run homeDisk (some homePath) homeArguments).code = 0
      ∧ (run homeDisk (some homePath) homeArguments).disk.locate .content ⟨"n/f"⟩
        = .ok [['n'], ['f']]
      ∧ (run (run homeDisk (some homePath) homeArguments).disk (some homePath)
          homeArguments).disk.read ⟨"n/f"⟩
        ≠ (run homeDisk (some homePath) homeArguments).disk.read ⟨"n/f"⟩)
    ∧ ownDisk.WellFormed ∧ ownDisk.LinkFree ∧ bareDisk.WellFormed
    ∧ Disk.AlikeBut [['y']] ownDisk bareDisk
    ∧ (run ownDisk none ["-o", "y", "--version"]).code = 0
    ∧ (run ownDisk none ["-o", "y", "--version"]).disk.read ⟨"y"⟩
      ≠ (run bareDisk none ["-o", "y", "--version"]).disk.read ⟨"y"⟩
  := by
  constructor
  · have hwf := homeDisk_opens.wellFormed homeDisk_wellFormed
    have hfree := homeDisk_opens.keeps.linkFree homeDisk_linkFree
    have hwritable := homeDisk_opens.writable homeDisk_linkFree
    have hp : expandPath (some homePath) homeSettings.outputFile = .ok ⟨"n/f"⟩ := rfl
    have hapart (d : Disk) : Apart d (some homePath) homeSettings [['n'], ['f']] :=
      ⟨by decide, by simp [homeSettings, Settings.none]⟩
    have hmade (bytes : List UInt8) :
        (homeRoomDisk.withBytes [['n'], ['f']] bytes).read ⟨"n/f"⟩ = .ok bytes
          ∧ (homeRoomDisk.withBytes [['n'], ['f']] bytes).locate .content ⟨"n/f"⟩
            = .ok [['n'], ['f']] := by
      use hwf.read_made hfree hwritable homeDisk_opens.way bytes
      obtain ⟨-, -, -, hcontent, -⟩ :=
        Disk.keeps_made hwf.here hfree hwritable homeDisk_opens.way bytes
      apply hcontent
    obtain ⟨block, hblock, hcode, hdisk⟩ := homeDisk_run
    obtain ⟨hcode', hdisk'⟩ := homeRoomDisk_run
    -- Over the document of the first run, the second run does what it would do without it.
    have hagain : runSettings (homeRoomDisk.withBytes [['n'], ['f']]
        (Text.bytesOf (Document.header generator) ++ block)) (some homePath) homeSettings
          = runSettings homeRoomDisk (some homePath) homeSettings := by
      apply runSettings_alike rfl hp hcode' hwf hfree _ (hapart _)
      · apply hwf.made hfree hwritable homeDisk_opens.way
      · constructor
        · rfl
        · rfl
        · left
          rfl
        · right
          rfl
        · right
          rfl
      · rw [hdisk', (hmade _).2]
    rw [run_eq read_homeArguments, run_eq read_homeArguments, hdisk, hagain, hdisk', (hmade _).1,
      (hmade _).1, (hmade _).2]
    use homeDisk_wellFormed, homeDisk_linkFree, read_homeArguments, hapart _, hcode, rfl
    simpa using hblock
  · have hread : Settings.read ["-o", "y", "--version"] = .version := by cbv
    use ownDisk_wellFormed, ownDisk_linkFree, bareDisk_wellFormed, bareDisk_alikeBut
    rw [run, run, hread]
    use rfl
    have hfile : ownDisk.read ⟨"y"⟩ = .ok [105] := by cbv
    have hmissing : bareDisk.read ⟨"y"⟩ = .error .notFound := by cbv
    dsimp only
    rw [hfile, hmissing]
    simp

end Compendium.Command
