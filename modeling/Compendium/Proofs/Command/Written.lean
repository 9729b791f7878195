import Compendium.Proofs.Command.Ending
import Compendium.Proofs.Command.Opening
import Compendium.Proofs.Scan.Lockstep

/-!
# The document of a run

Once its document is open, a run writes it: the header, and what is due on the path arguments on
the disk as it is then.  It ends without success if something stops it on the way, and leaves what
has been written by then.
-/

namespace Compendium.Command

section

variable {d : Disk} {home : Option Path} {s : Settings}

/-! ### The state of the resolver -/

/-- What the resolver knows is on the disk. -/
theorem current_loadGlobal {w : Work} (hw : w.resolver.Current w.disk) :
  (loadGlobal home s).Meets w
    (fun _ w' => w'.disk = w.disk ∧ w'.resolver.Current w.disk) (fun _ _ => True)
  := by
  rw [loadGlobal, Job.meets_bind, Job.meets_get]
  dsimp only
  split
  · use rfl, hw
  · cases s.config with
    | some raw =>
      dsimp only
      rw [Job.meets_bind, Job.meets_orComplain]
      use fun path _ => ?_, fun _ _ => trivial
      rw [Job.meets_bind, Job.meets_perform]
      use fun _ _ => ⟨rfl, hw.asked (Resolver.asked_loadExplicit path)⟩
      intro _ _
      trivial
    | none =>
      dsimp only
      rw [Job.meets_perform]
      use fun _ _ => ⟨rfl, hw.asked Resolver.asked_loadGlobal⟩
      intro _ _
      trivial

/-! ### What has been written -/

/-- The document of path arguments on a disk: the header, and what is due on the arguments. -/
def document (d : Disk) (globalKey : Option Path) (scope : Scope) (excluded : Option Path)
    (paths : List Path) : List UInt8 :=
  Text.bytesOf (Document.header generator)
    ++ Scan.delivered (Scan.dueDeeds d globalKey scope excluded paths)

/-- Whether the outlet of the document has taken certain bytes in the end, on a disk that is
otherwise as it was. -/
def Delivered (d : Disk) (o : Outlet) (bytes : List UInt8) (w : Work) : Prop :=
  w.disk = d ∧ ∃ k, w.sink = some k ∧ k.outlet = o ∧ k.drained.accepted = bytes

section

variable {bytes : List UInt8} {w : Work}

theorem Delivered.printed (h : Delivered d .console bytes w) :
  w.printed = bytes ∧ w.finalDisk = d
  := by
  obtain ⟨hdisk, k, hk, ho, rfl⟩ := h
  have hdrained : k.drained.outlet = .console := ho
  rw [Work.printed, Work.finalDisk, hk]
  simp [ho, hdrained, Sink.seenDisk, hdisk]

theorem Delivered.finalDisk {l : Location} (h : Delivered d (.file l) bytes w) :
  w.finalDisk = d.withBytes l bytes
  := by
  obtain ⟨hdisk, k, hk, ho, rfl⟩ := h
  have hdrained : k.drained.outlet = .file l := ho
  rw [Work.finalDisk, hk]
  simp [hdrained, Sink.seenDisk, hdisk]

/-- A document is written up to what stops the run, if something does. -/
theorem meets_writeDocument_delivering {scope : Scope} {target : Option Path} {k : Sink}
    {globalKey : Option Path} (hk : w.sink = some k) (hbuffered : k.Buffered)
    (hempty : k.written = []) (hgenerator : k.generator = generator)
    (hready : Scan.Ready w.disk globalKey (Scan.start w.resolver k))
    (hunread : Scan.Unread w.disk k (Scan.keysOf w.disk target)
      (Scan.argumentsVisits w.disk globalKey scope (s.paths.map Path.mk))) :
  (writeDocument scope s target).Meets w
    (fun _ w' => Scan.Goes (Scan.dueDeeds w.disk globalKey scope target (s.paths.map Path.mk))
      ∧ Delivered w.disk k.outlet
        (document w.disk globalKey scope target (s.paths.map Path.mk)) w')
    (fun complaint w' =>
      ¬ Scan.Goes (Scan.dueDeeds w.disk globalKey scope target (s.paths.map Path.mk))
        ∧ complaint.exitCode = 1
        ∧ Delivered w.disk k.outlet
          (document w.disk globalKey scope target (s.paths.map Path.mk)) w')
  := by
  have htaken {k' : Sink} (htook : Sink.Took k (Text.bytesOf (Document.header k.generator)
      ++ Scan.delivered (Scan.dueDeeds w.disk globalKey scope target (s.paths.map Path.mk))) k') :
      k'.outlet = k.outlet
        ∧ k'.drained.accepted = document w.disk globalKey scope target (s.paths.map Path.mk) := by
    use htook.outlet
    rw [(hbuffered.of_outlet htook.outlet).accepted_drained, htook.written, hempty, hgenerator]
    rfl
  have hdelivers := Scan.meets_aggregate_delivering hready hbuffered hunread
  have hblames := blames_aggregate w.disk scope (s.paths.map Path.mk) target
    (Scan.start w.resolver k) hbuffered
  rw [meets_writeDocument_iff hk rfl]
  constructor
  · intro report hreport
    obtain ⟨hgoes, htook⟩ := hdelivers.of_ok hreport
    exact ⟨hgoes, rfl, _, rfl, htaken htook⟩
  · intro failure hfailure
    obtain ⟨hgoes, htook⟩ := hdelivers.of_error hfailure
    exact ⟨hgoes, hblames.of_error hfailure _, rfl, _, rfl, htaken htook⟩

end

/-- Whether a run that writes its document goes on to its end or not, as it is said, and the outlet
has taken certain bytes then. -/
structure Produces (goes : Prop) (d : Disk) (o : Outlet) (bytes : List UInt8)
    (target : Option Path) (ended : Except Complaint (Report × Option Path)) (w : Work) :
    Prop where
  done : goes → ∃ report, ended = .ok (report, target)
  failed : ¬ goes → ∃ complaint : Complaint, ended = .error complaint ∧ complaint.exitCode = 1
  delivered : Delivered d o bytes w

/-- Once its document is open, a run writes it. -/
theorem produces_of_opened (scope : Scope) {target : Option Path} {w w₁ : Work} {k : Sink}
    {globalKey : Option Path} (hopen : (openDocument target).outcome w = (.ok (), w₁))
    (hk : w₁.sink = some k) (hbuffered : k.Buffered) (hempty : k.written = [])
    (hgenerator : k.generator = generator)
    (hready : Scan.Ready w₁.disk globalKey (Scan.start w₁.resolver k))
    (hunread : Scan.Unread w₁.disk k (Scan.keysOf w₁.disk target)
      (Scan.argumentsVisits w₁.disk globalKey scope (s.paths.map Path.mk))) :
  ∃ ended w', (produce s scope target).outcome w = (ended, w')
    ∧ Produces (Scan.Goes (Scan.dueDeeds w₁.disk globalKey scope target (s.paths.map Path.mk)))
      w₁.disk k.outlet (document w₁.disk globalKey scope target (s.paths.map Path.mk)) target
      ended w'
  := by
  have hwrites := meets_writeDocument_delivering (s := s) hk hbuffered hempty hgenerator hready
    hunread
  rw [produce, Job.outcome_bind, hopen]
  dsimp only
  rw [Job.outcome_bind]
  rcases hwrite : (writeDocument scope s target).outcome w₁ with ⟨complaint | report, w'⟩
  · obtain ⟨hgoes, hcode, hdelivered⟩ := hwrites.of_outcome.2 _ hwrite
    exact ⟨_, _, rfl, fun h => absurd h hgoes, fun _ => ⟨complaint, rfl, hcode⟩, hdelivered⟩
  · obtain ⟨hgoes, hdelivered⟩ := hwrites.of_outcome.1 _ hwrite
    exact ⟨_, _, rfl, fun _ => ⟨report, rfl⟩, fun h => absurd hgoes h, hdelivered⟩

/-! ### A new file -/

section

variable {p : Path} {d₁ : Disk} {l : Location}

theorem wellFormed_withRoom (hd : d.WellFormed) (path : Path) :
  (withRoom d path).2.WellFormed
  := by
  rw [withRoom]
  cases path.parent? with
  | none => apply hd
  | some above =>
    dsimp only
    split
    · apply hd
    · apply hd.makeDirs above.ancestors

variable (h : Opens d p d₁ l) (hd : d.WellFormed)

include h hd

theorem Opens.wellFormed :
  d₁.WellFormed
  := by
  have hroom := wellFormed_withRoom hd p
  rwa [h.room] at hroom

/-- To open a new document makes one file more, and directories above it. -/
theorem Opens.grown (hfree : d.LinkFree) (hnew : d.root.kindAt l = none) :
  Scan.Grown l d (d₁.withBytes l [])
  := by
  have hfree₁ := h.keeps.linkFree hfree
  have hl := h.writable hfree
  obtain ⟨hkeeps, -⟩ := Disk.keeps_made (h.wellFormed hd).here hfree₁ hl h.way []
  use hd, (h.wellFormed hd).made hfree₁ hl h.way [], hfree, (h.keeps.hiding hl).trans hkeeps,
    hnew

end

section

variable (scope : Scope) {w : Work} (hw : Untouched d w) (hd : d.WellFormed)
  (hcurrent : w.resolver.Current d)

include hw hd hcurrent

/-- On standard output, there is the document of the path arguments. -/
theorem produces_console :
  ∃ ended w', (produce s scope none).outcome w = (ended, w')
    ∧ Produces (Scan.Goes
        (Scan.dueDeeds d w.resolver.globalKey scope none (s.paths.map Path.mk)))
      d .console (document d w.resolver.globalKey scope none (s.paths.map Path.mk)) none ended w'
  := by
  obtain ⟨rfl, -⟩ := hw
  have hopen : (openDocument none).outcome w
      = (.ok (), { w with sink := some (.empty .console ⟨"<stdout>"⟩ generator) }) := rfl
  apply produces_of_opened scope hopen rfl nofun rfl rfl
    (Scan.ready_start hd (hcurrent.faithful hd) nofun) fun _ => nofun

variable {p : Path} {d₁ : Disk} {l : Location} (hfree : d.LinkFree) (hopens : Opens d p d₁ l)
  (hnew : d.root.kindAt l = none) (hname : Disk.NotNamedConfig l)

include hfree hopens hnew hname

/-- In a new file, there is the document of the path arguments on the disk that has this file,
if they do not lead to the file. -/
theorem produces_file (hunread : Scan.Unread (d₁.withBytes l []) (.empty (.file l) p generator)
      (Scan.keysOf (d₁.withBytes l []) (some p))
      (Scan.argumentsVisits (d₁.withBytes l []) w.resolver.globalKey scope
        (s.paths.map Path.mk))) :
  ∃ ended w', (produce s scope (some p)).outcome w = (ended, w')
    ∧ Produces (Scan.Goes (Scan.dueDeeds (d₁.withBytes l []) w.resolver.globalKey scope (some p)
        (s.paths.map Path.mk)))
      (d₁.withBytes l []) (.file l)
      (document (d₁.withBytes l []) w.resolver.globalKey scope (some p) (s.paths.map Path.mk))
      (some p) ended w'
  := by
  obtain ⟨rfl, -⟩ := hw
  have hgrown := hopens.grown hd hfree hnew
  obtain ⟨-, -, hfile, -⟩ := Disk.keeps_made (hopens.wellFormed hd).here
    (hopens.keeps.linkFree hfree) (hopens.writable hfree) hopens.way []
  have hready : Scan.Ready (d₁.withBytes l []) w.resolver.globalKey
      (Scan.start w.resolver (.empty (.file l) p generator)) := by
    use hgrown.right, (hgrown.current hcurrent).faithful hgrown.right, rfl
    · rintro location ⟨⟩
      apply hfile
    · rintro location ⟨⟩ path hpath
      apply hpath.locate_ne hgrown.linkFree' hname
  have hproduces := produces_of_opened (s := s) scope (outcome_openDocument hopens) rfl nofun
    rfl rfl hready hunread
  apply hproduces

/-- That is the document that would be on standard output, if the path arguments lead to nothing
but what was there before. -/
theorem produces_file_of_aside
    (haside : ∀ raw ∈ s.paths, Scan.LeadsAside l d (d₁.withBytes l []) ⟨raw⟩) :
  ∃ ended w', (produce s scope (some p)).outcome w = (ended, w')
    ∧ Produces (Scan.Goes
        (Scan.dueDeeds d w.resolver.globalKey scope none (s.paths.map Path.mk)))
      (d₁.withBytes l []) (.file l)
      (document d w.resolver.globalKey scope none (s.paths.map Path.mk)) (some p) ended w'
  := by
  have hgrown := hopens.grown hd hfree hnew
  have haside' : ∀ path ∈ s.paths.map Path.mk, Scan.LeadsAside l d (d₁.withBytes l []) path :=
    List.forall_mem_map.mpr haside
  obtain ⟨-, -, -, hcontent, -⟩ := Disk.keeps_made (hopens.wellFormed hd).here
    (hopens.keeps.linkFree hfree) (hopens.writable hfree) hopens.way []
  obtain ⟨hdelivered, hgoes⟩ := hgrown.delivered_dueDeeds hcontent haside'
  have hproduces := produces_file scope hw hd hcurrent hfree hopens hnew hname
    (hgrown.unread haside' rfl _)
  rwa [hgoes, document, hdelivered] at hproduces

end

/-! ### The outcome -/

theorem conclude_disk (ended : Except Complaint (Report × Option Path)) (w : Work) :
  (conclude s ended w).disk = w.finalDisk
  := by
  cases ended <;> rfl

theorem Produces.code {goes : Prop} {o : Outlet} {bytes : List UInt8} {target : Option Path}
    {ended : Except Complaint (Report × Option Path)} {w : Work}
    (h : Produces goes d o bytes target ended w) :
  (goes → (conclude s ended w).code = 0) ∧ (¬ goes → (conclude s ended w).code = 1)
  := by
  constructor
  · intro hgoes
    obtain ⟨report, rfl⟩ := h.done hgoes
    rfl
  · intro hgoes
    obtain ⟨complaint, rfl, hcode⟩ := h.failed hgoes
    apply hcode

/-- On standard output there is the document, and nothing else. -/
theorem Produces.stdout {goes : Prop} {bytes : List UInt8}
    {ended : Except Complaint (Report × Option Path)} {w : Work}
    (h : Produces goes d .console bytes none ended w) :
  (conclude s ended w).stdout = bytes
  := by
  rw [← h.delivered.printed.1]
  by_cases hgoes : goes
  · obtain ⟨report, rfl⟩ := h.done hgoes
    have hnothing :
        (if s.quiet then "" else ((none : Option Path).map Summary.created).getD "") = "" := by
      split <;> rfl
    change w.printed ++ Text.bytesOf (if s.quiet then "" else _) = _
    rw [hnothing]
    apply List.append_nil _
  · obtain ⟨complaint, rfl, -⟩ := h.failed hgoes
    rfl

/-- A run that ends before its document is open leaves nothing. -/
theorem runSettings_of_setup_error {complaint : Complaint} {w : Work}
    (h : (setup home s).outcome (beginning d home s) = (.error complaint, w)) :
  (runSettings d home s).code = complaint.exitCode ∧ (runSettings d home s).stdout = []
    ∧ (runSettings d home s).disk = d
  := by
  obtain ⟨⟨hdisk, hsink⟩, -⟩ := meets_setup.of_outcome.2 _ h
  rw [runSettings_eq, aggregate_eq, Job.outcome_bind, h]
  simp [conclude, Work.printed, Work.finalDisk, hsink, hdisk]

theorem runSettings_of_setup {scope : Scope} {target : Option Path} {w w' : Work}
    {ended : Except Complaint (Report × Option Path)}
    (h : (setup home s).outcome (beginning d home s) = (.ok (scope, target), w))
    (hproduce : (produce s scope target).outcome w = (ended, w')) :
  runSettings d home s = conclude s ended w'
  := by
  rw [runSettings_eq, aggregate_eq, Job.outcome_bind, h]
  dsimp only
  rw [hproduce]

section

variable {scope : Scope} {w : Work}

/-- A run that prints its document leaves the disk as it is. -/
theorem runSettings_console
    (hsetup : (setup home s).outcome (beginning d home s) = (.ok (scope, none), w))
    (hd : d.WellFormed) (hcurrent : w.resolver.Current d) :
  (runSettings d home s).stdout
      = document d w.resolver.globalKey scope none (s.paths.map Path.mk)
    ∧ (runSettings d home s).disk = d
    ∧ (Scan.Goes (Scan.dueDeeds d w.resolver.globalKey scope none (s.paths.map Path.mk)) →
      (runSettings d home s).code = 0)
    ∧ (¬ Scan.Goes (Scan.dueDeeds d w.resolver.globalKey scope none (s.paths.map Path.mk)) →
      (runSettings d home s).code = 1)
  := by
  obtain ⟨huntouched, -⟩ := meets_setup.of_outcome.1 _ hsetup
  obtain ⟨ended, w', hproduce, hproduces⟩ := produces_console scope huntouched hd hcurrent
  rw [runSettings_of_setup hsetup hproduce, conclude_disk]
  use hproduces.stdout, hproduces.delivered.printed.2
  apply hproduces.code

/-- A run that writes its document to a new file makes this file only, and what is above it. -/
theorem runSettings_file {p : Path} {d₁ : Disk} {l : Location}
    (hsetup : (setup home s).outcome (beginning d home s) = (.ok (scope, some p), w))
    (hd : d.WellFormed) (hcurrent : w.resolver.Current d) (hfree : d.LinkFree)
    (hopens : Opens d p d₁ l) (hnew : d.root.kindAt l = none) (hname : Disk.NotNamedConfig l)
    (haside : ∀ raw ∈ s.paths, Scan.LeadsAside l d (d₁.withBytes l []) ⟨raw⟩) :
  (runSettings d home s).disk
      = d₁.withBytes l (document d w.resolver.globalKey scope none (s.paths.map Path.mk))
    ∧ (Scan.Goes (Scan.dueDeeds d w.resolver.globalKey scope none (s.paths.map Path.mk)) →
      (runSettings d home s).code = 0)
    ∧ (¬ Scan.Goes (Scan.dueDeeds d w.resolver.globalKey scope none (s.paths.map Path.mk)) →
      (runSettings d home s).code = 1)
  := by
  obtain ⟨huntouched, -⟩ := meets_setup.of_outcome.1 _ hsetup
  obtain ⟨ended, w', hproduce, hproduces⟩ :=
    produces_file_of_aside scope huntouched hd hcurrent hfree hopens hnew hname haside
  rw [runSettings_of_setup hsetup hproduce, conclude_disk, hproduces.delivered.finalDisk,
    Disk.withBytes_withBytes]
  use rfl
  apply hproduces.code

end

end

end Compendium.Command
