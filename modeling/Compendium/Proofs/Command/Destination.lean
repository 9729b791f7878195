import Compendium.Proofs.Command.Adding
import Compendium.Proofs.Command.Overwriting

/-!
# Where the document goes

What a run finds out before it opens its document has nothing to do with where the document goes.
What it writes then is the same for a new file and for standard output, if no path argument leads
to the file or to what is made for it.  So is the exit code, and so is what has been written when
the run fails.
-/

namespace Compendium.Command

section

variable {d : Disk} {home : Option Path} {s : Settings}

/-! ### Before the document is opened -/

/-- What a run finds out before it opens its document, but for where the document goes. -/
def prepare (home : Option Path) (s : Settings) : Job Scope := loadGlobal home s >>= makeScope s

theorem setup_of_destination {target : Option Path} (h : destination home s = .ok target) :
  setup home s = prepare home s >>= fun scope => pure (scope, target)
  := by
  simp only [setup, prepare, h, bind_assoc]
  rfl

/-- What has been told before makes no difference. -/
theorem passes_prepare (before : List Notice) :
  Job.Passes (fun w => { w with notices := before ++ w.notices }) (prepare home s)
  := by
  have hneutral := Job.neutral_notices before
  apply Job.passes_bind _ (passes_makeScope hneutral)
  intro w
  rw [outcome_loadGlobal, outcome_loadGlobal]
  apply passes_loadGlobalFrom hneutral w

theorem current_prepare {w : Work} (hw : w.resolver.Current w.disk) :
  (prepare home s).Meets w
    (fun _ w' => w'.disk = w.disk ∧ w'.resolver.Current w.disk) (fun _ _ => True)
  := by
  rw [prepare, Job.meets_bind]
  apply (current_loadGlobal hw).mono _ fun _ _ _ => trivial
  rintro config w' hw'
  rw [makeScope, Job.meets_bind, Job.meets_orComplain]
  use fun scope _ => ?_, fun _ _ => trivial
  rw [Job.meets_bind, Job.meets_tell, Job.meets_pure]
  apply hw'

/-- The state in which a run begins that does not tell its settings. -/
def silent (d : Disk) (home : Option Path) : Work :=
  { beginning d home .none with notices := if home.isSome then [] else [.event .noHome] }

/-- Whatever the destination is, a run gets to the opening of its document in the same way. -/
theorem outcome_setup_of_destination {t : Settings} (hsame : prepare home t = prepare home s)
    {target : Option Path} (htarget : destination home t = .ok target)
    {found : Except Complaint Scope} {w : Work}
    (hprepared : (prepare home s).outcome (silent d home) = (found, w)) :
  (setup home t).outcome (beginning d home t)
    = (found.map (·, target), { w with notices := [.settings t] ++ w.notices })
  := by
  have hpasses : (prepare home s).outcome (beginning d home t) = _ :=
    passes_prepare [.settings t] (silent d home)
  rw [hprepared] at hpasses
  rw [setup_of_destination htarget, Job.outcome_bind, hsame, hpasses]
  cases found <;> rfl

/-! ### A new file and standard output -/

section

variable {file : String} {p : Path} {d₁ : Disk} {l : Location}

/-- With its document in a new file, a run ends as it does with the document on standard output,
and what is in the file is what would have been printed. -/
theorem runSettings_destination (hd : d.WellFormed) (hfree : d.LinkFree)
    (hstdout : s.stdout = false) (hp : expandPath home file = .ok p) (hopens : Opens d p d₁ l)
    (hnew : d.root.kindAt l = none) (hname : Disk.NotNamedConfig l)
    (haside : ∀ raw ∈ s.paths, Scan.LeadsAside l d (d₁.withBytes l []) ⟨raw⟩) :
  (runSettings d home { s with output := some file }).code
      = (runSettings d home { s with stdout := true }).code
    ∧ (runSettings d home { s with stdout := true }).disk = d
    ∧ ((runSettings d home { s with stdout := true }).stdout = []
        ∧ (runSettings d home { s with stdout := true }).code ≠ 0
        ∧ (runSettings d home { s with output := some file }).disk = d
      ∨ Text.bytesOf (Document.header generator)
          <+: (runSettings d home { s with stdout := true }).stdout
        ∧ (runSettings d home { s with output := some file }).disk
          = d₁.withBytes l (runSettings d home { s with stdout := true }).stdout)
  := by
  have hconsole : destination home { s with stdout := true } = .ok none := rfl
  have hfile : destination home { s with output := some file } = .ok (some p) := by
    rw [destination]
    simp [hstdout, Settings.outputFile, hp, Except.map]
  rcases hprepared : (prepare home s).outcome (silent d home) with ⟨complaint | scope, w⟩
  · obtain ⟨hcode, hprinted, hdisk⟩ :=
      runSettings_of_setup_error (outcome_setup_of_destination rfl hconsole hprepared)
    obtain ⟨hcode', -, hdisk'⟩ :=
      runSettings_of_setup_error (outcome_setup_of_destination rfl hfile hprepared)
    refine ⟨hcode'.trans hcode.symm, hdisk, .inl ⟨hprinted, ?_, hdisk'⟩⟩
    rw [hcode]
    apply exitCode_ne_zero complaint
  · have hsetup := outcome_setup_of_destination rfl hconsole hprepared
    have hsetup' := outcome_setup_of_destination rfl hfile hprepared
    have hcurrent : w.resolver.Current d :=
      ((current_prepare (w := silent d home) (Resolver.current_empty _ d)).of_outcome.1 _
        hprepared).2
    obtain ⟨hprinted, hdisk, hdone, hfailed⟩ :=
      runSettings_console (s := { s with stdout := true }) hsetup hd hcurrent
    obtain ⟨hwritten, hdone', hfailed'⟩ :=
      runSettings_file (s := { s with output := some file }) hsetup' hd hcurrent hfree hopens hnew
        hname haside
    rw [hprinted]
    refine ⟨?_, hdisk, .inr ⟨List.prefix_append _ _, hwritten⟩⟩
    by_cases hgoes : Scan.Goes (Scan.dueDeeds d w.resolver.globalKey scope none
      (s.paths.map Path.mk))
    · rw [hdone hgoes, hdone' hgoes]
    · rw [hfailed hgoes, hfailed' hgoes]

theorem toList_ne_nil_of_expandPath (hp : expandPath home file = .ok p) :
  file.toList ≠ []
  := by
  intro hnil
  obtain rfl : file = "" := String.toList_eq_nil_iff.mp hnil
  cases hp

/-- A run does the same for a document in a new file as for one on standard output, at whatever
place the option for it is added to the arguments: it ends with the same code, and the file has
the bytes that would be printed.  If it ends before the document is open, nothing is printed and no
file is made; after that, there is the beginning of the document at least, as far as the run got.
Arguments that ask for help or for the version are answered alike with both options.

A file whose name looks like an option cannot be asked for, nor one with a blank name.  And no path
argument may lead through a directory that is made for the file. -/
theorem run_destination {arguments toConsole toFile : List String}
    (hplain : Settings.Undirected arguments)
    (hconsole : Settings.Adds ["--stdout"] arguments toConsole)
    (hfile : Settings.Adds ["-o", file] arguments toFile)
    (hvalue : ∀ letter rest, file.toList ≠ '-' :: letter :: rest)
    (hp : expandPath home file = .ok p) (hd : d.WellFormed) (hfree : d.LinkFree)
    (hopens : Opens d p d₁ l) (hnew : d.root.kindAt l = none) (hname : Disk.NotNamedConfig l)
    (haside : ∀ s, Settings.read arguments = .run s →
      ∀ raw ∈ s.paths, Scan.LeadsAside l d (d₁.withBytes l []) ⟨raw⟩) :
  (run d home toFile).code = (run d home toConsole).code
    ∧ (run d home toConsole).disk = d
    ∧ ((∃ long, Settings.read arguments = .help long) ∨ Settings.read arguments = .version →
      run d home toFile = run d home toConsole)
    ∧ ((∀ long, Settings.read arguments ≠ .help long) → Settings.read arguments ≠ .version →
      (run d home toConsole).stdout = [] ∧ (run d home toConsole).code ≠ 0
          ∧ (run d home toFile).disk = d
        ∨ Text.bytesOf (Document.header generator) <+: (run d home toConsole).stdout
          ∧ (run d home toFile).disk = d₁.withBytes l (run d home toConsole).stdout
          ∧ (run d home toFile).disk.read p = .ok (run d home toConsole).stdout)
  := by
  have hread := Settings.read_stdout hplain hconsole
  have hread' := Settings.read_output hplain (toList_ne_nil_of_expandPath hp) hvalue hfile
  rw [run, run, hread, hread']
  cases hrequest : Settings.read arguments with
  | help long => simp [Request.adjust]
  | version => simp [Request.adjust]
  | misuse => simp [Request.adjust]
  | run s =>
    obtain ⟨hstdout, -⟩ := hplain.unset_of_run hrequest
    obtain ⟨hcode, hdisk, hleft⟩ := runSettings_destination hd hfree hstdout hp hopens hnew hname
      (haside s hrequest)
    refine ⟨hcode, hdisk, by simp, fun _ _ => hleft.imp_right ?_⟩
    rintro ⟨hheader, hwritten⟩
    use hheader, hwritten
    dsimp only [Request.adjust]
    rw [hwritten]
    apply (hopens.wellFormed hd).read_made (hopens.keeps.linkFree hfree) (hopens.writable hfree)
      hopens.way _

end

end

/-! ### A document in a new directory -/

/-- A disk with room for a document at `n/f`. -/
def roomDisk : Disk :=
  ⟨.dir (.cons ['b'] (.dir Scan.plainEntries)
    (.cons ['n'] .emptyDir (.cons ['y'] (.file [105]) .nil))), []⟩

theorem roomDisk_opens :
  Opens ownDisk ⟨"n/f"⟩ roomDisk [['n'], ['f']]
  := by
  have habove : (⟨"n/f"⟩ : Path).parent? = some ⟨"n"⟩ := by decide
  apply opens_of_makeDir habove rfl
  · cbv
  · cbv
  · decide

/-- A directory is scanned, and the document is put into another one, which is made for it. -/
theorem run_destination_new_directory :
  Settings.Undirected ["b"] ∧ Settings.Adds ["--stdout"] ["b"] ["b", "--stdout"]
    ∧ Settings.Adds ["-o", "n/f"] ["b"] ["-o", "n/f", "b"]
    ∧ Opens ownDisk ⟨"n/f"⟩ roomDisk [['n'], ['f']]
    ∧ ((run ownDisk none ["b", "--stdout"]).stdout = []
        ∧ (run ownDisk none ["b", "--stdout"]).code ≠ 0
        ∧ (run ownDisk none ["-o", "n/f", "b"]).disk = ownDisk
      ∨ Text.bytesOf (Document.header generator) <+: (run ownDisk none ["b", "--stdout"]).stdout
        ∧ (run ownDisk none ["-o", "n/f", "b"]).disk
          = roomDisk.withBytes [['n'], ['f']] (run ownDisk none ["b", "--stdout"]).stdout
        ∧ (run ownDisk none ["-o", "n/f", "b"]).disk.read ⟨"n/f"⟩
          = .ok (run ownDisk none ["b", "--stdout"]).stdout)
  := by
  have hplain : Settings.Undirected ["b"] := by decide
  have hread : Settings.read ["b"] = .run { Settings.none with paths := ["b"] } := by cbv
  have hconsole : Settings.Adds ["--stdout"] ["b"] ["b", "--stdout"] := by
    use ["b"], [], rfl, rfl
    rintro p ⟨⟩
    constructor
    · rfl
    · rfl
  have hfile := Settings.adds_front ["-o", "n/f"] ["b"]
  have haside : Scan.LeadsAside [['n'], ['f']] ownDisk
      (roomDisk.withBytes [['n'], ['f']] []) ⟨"b"⟩ := by
    have hlocate : (roomDisk.withBytes [['n'], ['f']] []).locate .content ⟨"b"⟩ = .ok [['b']] := by
      cbv
    intro m hm
    obtain rfl := Except.ok.inj (hlocate.symm.trans hm)
    use by cbv
    decide
  have hp : expandPath none "n/f" = .ok ⟨"n/f"⟩ := rfl
  obtain ⟨-, -, -, hleft⟩ := run_destination hplain hconsole hfile (by simp) hp ownDisk_wellFormed
    ownDisk_linkFree roomDisk_opens rfl (by decide) (by
      rintro s hs raw hraw
      obtain rfl := Request.run.inj (hread.symm.trans hs)
      obtain rfl := List.mem_singleton.mp hraw
      apply haside)
  use hplain, hconsole, hfile, roomDisk_opens
  apply hleft (by simp [hread]) (by simp [hread])

/-! ### Where the destination makes a difference -/

/-- Arguments that lead through a directory which is made for the document. -/
def strayArguments : List String := ["--no-builtin-ignore", "--no-global-config", "n/../y"]

/-- The settings that they stand for. -/
def straySettings : Settings :=
  { Settings.none with paths := ["n/../y"], noGlobalConfig := true, noBuiltinIgnore := true }

theorem stray_prepared :
  (prepare none straySettings).outcome (silent ownDisk none)
    = (.ok .empty, { silent ownDisk none with
        notices := [.event .noHome, .globalDisabled, .patterns []] })
  := by
  rw [prepare, Job.outcome_bind, outcome_loadGlobal_of_disabled rfl]
  apply outcome_makeScope
  rfl

theorem stray_steps :
  Disk.steps "n/../y".toList = [.name ['n'], .up, .name ['y']]
  := rfl

/-- Without the directory, the arguments lead nowhere. -/
theorem stray_console :
  (run ownDisk none ("--stdout" :: strayArguments)).code = 0
    ∧ (run ownDisk none ("--stdout" :: strayArguments)).stdout
      = Text.bytesOf (Document.header generator)
  := by
  have hread : Settings.read ("--stdout" :: strayArguments)
      = .run { straySettings with stdout := true } := by cbv
  have hnode : ownDisk.node? ⟨"n/../y"⟩ = .error .notFound := by
    have hlocate : ownDisk.locate .content ⟨"n/../y"⟩ = .error .notFound := by
      rw [Disk.locate, if_neg (by decide), if_neg (by decide), if_neg (by decide), stray_steps,
        Disk.follow]
      rfl
    rw [Disk.node?, hlocate]
    rfl
  have hvisits : Scan.argumentsVisits ownDisk none .empty [⟨"n/../y"⟩] = [] := by
    apply Scan.argumentsVisits_of_node? _ _ hnode
  have hsetup := outcome_setup_of_destination (t := { straySettings with stdout := true })
    rfl rfl stray_prepared
  obtain ⟨hprinted, -, hdone, -⟩ := runSettings_console (s := { straySettings with stdout := true })
    hsetup ownDisk_wellFormed (Resolver.current_empty _ _)
  have hgoes : Scan.Goes (Scan.dueDeeds ownDisk none .empty none [⟨"n/../y"⟩]) := by
    rw [Scan.dueDeeds, hvisits]
    intro _
    apply List.not_mem_nil
  rw [run_eq hread, hprinted]
  use hdone hgoes
  change document ownDisk none .empty none [⟨"n/../y"⟩] = _
  rw [document, Scan.dueDeeds, hvisits]
  apply List.append_nil _

/-- With the directory, they lead to a file. -/
theorem stray_locate :
  (roomDisk.withBytes [['n'], ['f']] []).locate .content ⟨"n/../y"⟩ = .ok [['y']]
  := by
  rw [Disk.locate, if_neg (by decide), if_neg (by decide), if_neg (by decide), stray_steps,
    Disk.follow]
  change Disk.follow _ .content _ [['n']] _ = _
  rw [Disk.follow]
  change Disk.follow _ .content _ [] _ = _
  rw [Disk.follow]
  change Disk.follow _ .content _ [['y']] _ = _
  rw [Disk.follow]

theorem stray_visits :
  Scan.argumentsVisits (roomDisk.withBytes [['n'], ['f']] []) none .empty [⟨"n/../y"⟩]
    = [.file ⟨"n/../y"⟩ ⟨"y"⟩ .empty]
  := by
  have hread : (roomDisk.withBytes [['n'], ['f']] []).read ⟨"n/../y"⟩ = .ok [105] :=
    Disk.read_eq_ok_iff.mpr ⟨_, stray_locate, rfl⟩
  rw [Scan.argumentsVisits_of_isFile _ _ (Disk.isFile_iff.mpr ⟨_, hread⟩)]
  rfl

theorem stray_delivered :
  Scan.delivered (Scan.dueDeeds (roomDisk.withBytes [['n'], ['f']] []) none .empty
    (some ⟨"n/f"⟩) [⟨"n/../y"⟩]) ≠ []
  := by
  have hread : (roomDisk.withBytes [['n'], ['f']] []).read ⟨"n/../y"⟩ = .ok [105] :=
    Disk.read_eq_ok_iff.mpr ⟨_, stray_locate, rfl⟩
  have hkeys : Scan.keysOf (roomDisk.withBytes [['n'], ['f']] []) (some ⟨"n/f"⟩) = [⟨"/n/f"⟩] := by
    cbv
  have hkept : Scan.isKeptOut [⟨"/n/f"⟩] (roomDisk.withBytes [['n'], ['f']] []) ⟨"n/../y"⟩
      = false := by
    rw [Scan.isKeptOut, List.any_cons, List.any_nil, Bool.or_false, Bool.and_eq_false_iff]
    left
    rfl
  rw [Scan.dueDeeds, stray_visits, hkeys, List.map_singleton, Scan.Visit.deed, Scan.fileDeed,
    hkept, hread, if_neg (by simp)]
  dsimp only
  rw [Scan.delivered_cons, if_neg (by simp [Scan.Deed.stops])]
  intro hnil
  apply Scan.Drawn.block_ne (p := ⟨_, _, _⟩) ⟨_, _, _, hread, rfl, rfl⟩
    (List.append_eq_nil_iff.mp hnil).1

/-- So the file is in the document, if that is made in the directory. -/
theorem stray_file :
  ∃ block, block ≠ []
    ∧ (run ownDisk none ("-o" :: "n/f" :: strayArguments)).disk.read ⟨"n/f"⟩
      = .ok (Text.bytesOf (Document.header generator) ++ block)
  := by
  have hread : Settings.read ("-o" :: "n/f" :: strayArguments)
      = .run { straySettings with output := some "n/f" } := by cbv
  have hsetup := outcome_setup_of_destination (t := { straySettings with output := some "n/f" })
    rfl rfl stray_prepared
  have hunread : Scan.Unread (roomDisk.withBytes [['n'], ['f']] [])
      (.empty (.file [['n'], ['f']]) ⟨"n/f"⟩ generator)
      (Scan.keysOf (roomDisk.withBytes [['n'], ['f']] []) (some ⟨"n/f"⟩))
      (Scan.argumentsVisits (roomDisk.withBytes [['n'], ['f']] []) none .empty
        [⟨"n/../y"⟩]) := by
    rintro location ⟨⟩ file relative context hvisit hlocate
    rw [stray_visits] at hvisit
    obtain ⟨rfl, -⟩ := Scan.Visit.file.inj (List.mem_singleton.mp hvisit)
    cases stray_locate.symm.trans hlocate
  obtain ⟨ended, w, hproduce, hproduces⟩ := produces_file
    (s := { straySettings with output := some "n/f" }) .empty (meets_setup.of_outcome.1 _ hsetup).1
    ownDisk_wellFormed (Resolver.current_empty _ _) ownDisk_linkFree roomDisk_opens rfl
    (by decide) hunread
  refine ⟨_, stray_delivered, ?_⟩
  rw [run_eq hread, runSettings_of_setup hsetup hproduce, conclude_disk,
    hproduces.delivered.finalDisk, Disk.withBytes_withBytes]
  apply (roomDisk_opens.wellFormed ownDisk_wellFormed).read_made
    (roomDisk_opens.keeps.linkFree ownDisk_linkFree) (roomDisk_opens.writable ownDisk_linkFree)
    roomDisk_opens.way _

/-- Where a path argument leads through a directory that is made for the document, the document in
the file is another than the one that is printed.  The answer to a request for the version is
printed in either case, and makes no file.  And a file whose name looks like an option, or is
blank, cannot be asked for, so that the exit codes are not the same. -/
theorem destination_matters :
  (ownDisk.WellFormed ∧ ownDisk.LinkFree ∧ Settings.Undirected strayArguments
      ∧ Settings.read strayArguments = .run straySettings
      ∧ Opens ownDisk ⟨"n/f"⟩ roomDisk [['n'], ['f']]
      ∧ ownDisk.root.kindAt [['n'], ['f']] = none ∧ Disk.NotNamedConfig [['n'], ['f']]
      ∧ (∀ raw ∈ straySettings.paths, ∀ m,
        (roomDisk.withBytes [['n'], ['f']] []).locate .content ⟨raw⟩ = .ok m →
          ¬ m <+: [['n'], ['f']])
      ∧ ∃ bytes, (run ownDisk none ("-o" :: "n/f" :: strayArguments)).disk.read ⟨"n/f"⟩ = .ok bytes
        ∧ bytes ≠ (run ownDisk none ("--stdout" :: strayArguments)).stdout)
    ∧ (Settings.Undirected ["--version"]
      ∧ (run ownDisk none ["--stdout", "--version"]).stdout ≠ []
      ∧ (run ownDisk none ["-o", "n/f", "--version"]).disk.root.kindAt [['n'], ['f']] = none)
    ∧ ((∃ l, Opens ownDisk ⟨"-f"⟩ ownDisk l ∧ ownDisk.root.kindAt l = none)
      ∧ (run ownDisk none ("-o" :: "-f" :: strayArguments)).code
        ≠ (run ownDisk none ("--stdout" :: strayArguments)).code)
    ∧ (∃ l, Opens ownDisk ⟨" "⟩ ownDisk l ∧ ownDisk.root.kindAt l = none)
      ∧ (run ownDisk none ("-o" :: " " :: strayArguments)).code
        ≠ (run ownDisk none ("--stdout" :: strayArguments)).code
  := by
  obtain ⟨hcode, hstdout⟩ := stray_console
  refine ⟨⟨ownDisk_wellFormed, ownDisk_linkFree, by decide, by cbv, roomDisk_opens, rfl,
    by decide, ?_, ?_⟩, ⟨by decide, ?_, ?_⟩, ⟨⟨[['-', 'f']], ?_, rfl⟩, ?_⟩,
    ⟨[[' ']], ?_, rfl⟩, ?_⟩
  · intro raw hraw m hm
    obtain rfl := List.mem_singleton.mp hraw
    obtain rfl := Except.ok.inj (stray_locate.symm.trans hm)
    decide
  · obtain ⟨block, hblock, hread⟩ := stray_file
    refine ⟨_, hread, ?_⟩
    rw [hstdout]
    simpa using hblock
  · have hread : Settings.read ["--stdout", "--version"] = .version := by cbv
    rw [run, hread]
    decide
  · have hread : Settings.read ["-o", "n/f", "--version"] = .version := by cbv
    rw [run, hread]
    rfl
  · apply opens_of_locate rfl ownDisk_linkFree (.inl rfl) (by cbv)
  · have hread : Settings.read ("-o" :: "-f" :: strayArguments) = .misuse := by cbv
    rw [hcode, run, hread]
    decide
  · apply opens_of_locate rfl ownDisk_linkFree (.inl rfl) (by cbv)
  · have hread : Settings.read ("-o" :: " " :: strayArguments)
        = .run { straySettings with output := some " " } := by cbv
    have htarget : destination none { straySettings with output := some " " }
        = .error (.emptyPath " ") := by cbv
    have hsetup : ((setup none { straySettings with output := some " " }).outcome
        (beginning ownDisk none { straySettings with output := some " " })).1
          = .error ⟨none, .emptyPath " "⟩ := by
      rw [setup_eq, Job.outcome_bind, outcome_loadGlobal_of_disabled rfl]
      dsimp only
      rw [settle, Job.outcome_bind, outcome_makeScope rfl, htarget]
      rfl
    obtain ⟨hblank, -⟩ := runSettings_of_setup_error (Prod.ext hsetup rfl)
    rw [hcode, run_eq hread, hblank]
    decide

end Compendium.Command
