import Compendium.Proofs.Aggregate
import Compendium.Proofs.Scan.Closure

/-!
# What is kept out of the document

A file is kept out if it is the one that must not get into the document and has the name which
that has on its absolute path.  A link of another name to this file is not kept out, not even if
it is by this link that the file was named.
-/

namespace Compendium.Scan

/-! ### What every run keeps -/

/-- Whether a file got into the document after it was found not to be kept out, and with what
could be read of it then. -/
def Admitted (d : Disk) (k : Sink) (keys : List Path) (p : Placed) : Prop :=
  ∃ relative context,
    Becomes d k keys (.file p.path relative context) (.add p.path p.how p.block)

/-- Whether the report has certain files, and whether their blocks have been written after the
bytes `base`. -/
structure Whole (d : Disk) (k : Sink) (keys : List Path) (base : List UInt8)
    (placed : List Placed) (s : Scan) : Prop where
  outlet : s.sink.outlet = k.outlet
  excluded : s.excluded = keys
  included : s.report.included = filesOf placed
  written : s.sink.written = base ++ blocksOf placed
  admitted : ∀ p ∈ placed, Admitted d k keys p

/-- Whether the report has only admitted files, and whether only their blocks have been written
after the bytes `base`, the last one perhaps in part. -/
def Torn (d : Disk) (k : Sink) (keys : List Path) (base : List UInt8) (s : Scan) : Prop :=
  ∃ placed, s.report.included <+: filesOf placed ∧ s.sink.written <+: base ++ blocksOf placed
    ∧ ∀ p ∈ placed, Admitted d k keys p

/-- Whether an action puts admitted files into the report and the document only, whatever it ends
with. -/
def Admits {α : Type} (d : Disk) (k : Sink) (keys : List Path) (base : List UInt8)
    (x : Action Scan α) : Prop :=
  ∀ s, (∃ placed, Whole d k keys base placed s) →
    x.Meets s (fun _ s' => ∃ placed, Whole d k keys base placed s')
      (fun _ s' => Torn d k keys base s')

section

variable {d : Disk} {k : Sink} {keys : List Path} {base : List UInt8}

theorem Whole.torn {placed : List Placed} {s : Scan} (h : Whole d k keys base placed s) :
  Torn d k keys base s
  := by
  use placed
  rw [h.included, h.written]
  use List.prefix_refl _, List.prefix_refl _, h.admitted

/-- Neither the resolver nor what else is in the report matters. -/
theorem Whole.of_eq {placed : List Placed} {s s' : Scan} (h : Whole d k keys base placed s)
    (hsink : s'.sink = s.sink) (hexcluded : s'.excluded = s.excluded)
    (hincluded : s'.report.included = s.report.included) :
  Whole d k keys base placed s'
  := by
  use hsink ▸ h.outlet, hexcluded.trans h.excluded, hincluded.trans h.included
  · rw [hsink, h.written]
  · apply h.admitted

/-- Another file is placed when its block has been written. -/
theorem Whole.concat {placed : List Placed} {s : Scan} (h : Whole d k keys base placed s)
    {p : Placed} (hp : Admitted d k keys p) {k' : Sink}
    (hk : Sink.Took s.sink (Text.bytesOf p.block) k') :
  Whole d k keys base (placed ++ [p])
    { s with sink := k', report := s.report.add p.path p.how }
  := by
  constructor
  · apply hk.outlet.trans h.outlet
  · apply h.excluded
  · rw [filesOf, List.map_append, ← filesOf, ← h.included]
    rfl
  · rw [hk.written, h.written, blocksOf, blocksOf, List.flatMap_append, List.append_assoc]
    simp
  · intro q hq
    rcases List.mem_append.mp hq with hq | hq
    · apply h.admitted q hq
    · obtain rfl := List.mem_singleton.mp hq
      apply hp

/-- At the end of a document no file is placed. -/
theorem Whole.took {placed : List Placed} {s : Scan} (h : Whole d k keys base placed s)
    {k' : Sink} (hk : Sink.Took s.sink [] k') :
  Whole d k keys base placed { s with sink := k' }
  := by
  use hk.outlet.trans h.outlet, h.excluded, h.included
  · rw [hk.written, h.written, List.append_nil]
  · apply h.admitted

/-- A file whose block has been written in part is not in the report. -/
theorem Whole.torn_concat {placed : List Placed} {s : Scan}
    (h : Whole d k keys base placed s) {p : Placed} (hp : Admitted d k keys p) {k' : Sink}
    {torn : List UInt8} (htorn : torn <+: Text.bytesOf p.block) (hk : Sink.Took s.sink torn k') :
  Torn d k keys base { s with sink := k' }
  := by
  use placed ++ [p]
  constructor
  · rw [h.included, filesOf, filesOf, List.map_append]
    apply List.prefix_append
  constructor
  · rw [hk.written, h.written, blocksOf, blocksOf, List.flatMap_append, ← List.append_assoc]
    simpa using htorn
  · intro q hq
    rcases List.mem_append.mp hq with hq | hq
    · apply h.admitted q hq
    · obtain rfl := List.mem_singleton.mp hq
      apply hp

/-! ### Actions that place no file -/

theorem admits_pure {α : Type} (a : α) :
  Admits d k keys base (pure a : Action Scan α)
  := fun _ hs => hs

theorem admits_bind {α β : Type} {x : Action Scan α} {f : α → Action Scan β}
    (hx : Admits d k keys base x) (hf : ∀ a, Admits d k keys base (f a)) :
  Admits d k keys base (x >>= f)
  := by
  intro s hs
  rw [Action.meets_bind]
  apply (hx s hs).mono
  · intro a s' hs'
    apply hf a s' hs'
  · intro failure s' htorn
    apply htorn

theorem admits_tell (event : Event) :
  Admits d k keys base (Action.tell event : Action Scan Unit)
  := fun _ hs => hs

theorem admits_ofExcept {α : Type} (found : Except Failure α) :
  Admits d k keys base (Action.ofExcept found : Action Scan α)
  := by
  rintro s ⟨placed, hs⟩
  cases found with
  | ok a => exact ⟨placed, hs⟩
  | error failure => apply hs.torn

theorem admits_resolving {α : Type} (x : Action Resolver α) :
  Admits d k keys base (resolving x)
  := by
  rintro s ⟨placed, hs⟩
  rw [resolving, Action.meets_within, Action.meets_iff]
  constructor
  · intro a _
    exact ⟨placed, hs.of_eq rfl rfl rfl⟩
  · intro failure _
    apply (hs.of_eq rfl rfl rfl).torn

theorem admits_reporting {f : Report → Report} (hf : ∀ r, (f r).included = r.included) :
  Admits d k keys base (reporting f)
  := by
  rintro s ⟨placed, hs⟩
  exact ⟨placed, hs.of_eq rfl rfl (hf s.report)⟩

theorem admits_skip (path : Path) :
  Admits d k keys base (reporting (·.skip path))
  := admits_reporting fun _ => rfl

theorem admits_noting (failure : Failure) :
  Admits d k keys base (reporting (·.note failure))
  := admits_reporting fun _ => rfl

/-! ### Files -/

/-- A file is placed only if it is not kept out. -/
theorem admits_includeFile (path relative : Path) (context : Context) :
  Admits d k keys base (includeFile d path relative context)
  := by
  rintro s ⟨placed, hs⟩
  simp only [includeFile, Action.meets_bind, meets_seenDisk, Action.meets_state]
  by_cases hkept : isKeptOut s.excluded (s.sink.seenDisk d) path = true
  · rw [if_pos (by exact hkept)]
    apply admits_bind (admits_tell _) (fun _ => admits_skip path) s ⟨placed, hs⟩
  · rw [if_neg (by exact hkept)]
    cases hread : (s.sink.seenDisk d).read path with
    | error fault => apply admits_bind (admits_tell _) (fun _ => admits_noting _) s ⟨placed, hs⟩
    | ok bytes =>
      have hout : isKeptOut keys (s.sink.seenDisk d) path = false := by
        rw [← hs.excluded]
        simpa using hkept
      have hadmitted : Admitted d k keys ⟨path, inclusionOf relative context (.ofBytes bytes),
          blockOf path relative context (.ofBytes bytes)⟩ := by
        use relative, context, s.sink, hs.outlet
        symm
        apply Visit.deed_eq_add_iff.mpr
        use relative, context, bytes
      simp only [reporting, Action.meets_bind, Action.meets_change]
      apply (meets_includeContent path relative context (.ofBytes bytes)).mono
      · rintro how s' ⟨rfl, k', htook, rfl⟩
        exact ⟨_, hs.concat hadmitted htook⟩
      · rintro failure s' ⟨-, -, torn, hprefix, -, k', htook, rfl⟩
        apply hs.torn_concat hadmitted hprefix htook

/-- Wherever a scan goes, it places admitted files only. -/
theorem admits_closed :
  Closed d (fun _ => True) (fun _ => Admits d k keys base)
  := by
  constructor
  · apply admits_pure
  · apply admits_bind
  · intro event _
    apply admits_tell
  · intro α f hf s
    apply hf _ trivial s
  · intro seen above path _
    apply admits_resolving
  · apply admits_skip
  · apply admits_noting
  · apply admits_includeFile

end

/-! ### Whole runs -/

section

variable {d : Disk} {k : Sink} {path key : Path} {r : Resolver}

/-- However an aggregation ends, it has put admitted files into the report and the document
only. -/
theorem meets_aggregate_excluding (hd : d.WellFormed) (hopen : k.OpenOn d)
    (hkey : d.canonical path = .ok key) (scope : Scope) (paths : List Path) :
  (aggregate d scope paths (some path)).Meets (start r k)
    (fun report s' => report = s'.report ∧ ∃ placed,
      Whole d k [key] (k.written ++ Text.bytesOf (Document.header k.generator)) placed s')
    (fun _ s' => Torn d k [key] (k.written ++ Text.bytesOf (Document.header k.generator)) s')
  := by
  rw [aggregate, aggregateBy, Action.meets_bind]
  apply (meets_beginning (start r k)).mono
  · rintro _ s' ⟨k', rfl, hk⟩
    have hseen : (k'.seenDisk d).canonical path = .ok key := by
      rw [((hk.openOn hopen).sameShape hd).canonical, hkey]
    rw [Action.meets_bind, exclude, Action.meets_bind, meets_seenDisk, hseen,
      Action.meets_change]
    have hwhole : Whole d k [key] (k.written ++ Text.bytesOf (Document.header k.generator)) []
        { start r k with sink := k', excluded := [key] } := by
      use hk.outlet, rfl, rfl
      · rw [hk.written, blocksOf, List.flatMap_nil, List.append_nil]
        rfl
      · simp
    simp only [Action.meets_bind, Action.meets_state, Action.meets_tell, Action.meets_pure]
    apply (admits_closed.arguments (fun _ => admits_ofExcept _) paths _ ⟨[], hwhole⟩).mono
    · rintro _ s' ⟨placed, hs'⟩
      apply (meets_finishing s').mono
      · rintro _ s'' ⟨k'', hk'', rfl⟩
        use rfl, placed
        apply hs'.took hk''
      · rintro failure s'' ⟨-, k'', hk'', rfl⟩
        apply (hs'.took hk'').torn
    · intro failure s' htorn
      apply htorn
  · rintro failure s' ⟨-, torn, k', rfl, hprefix, hk⟩
    use [], List.prefix_refl _
    constructor
    · rw [hk.written, blocksOf, List.flatMap_nil, List.append_nil]
      apply (List.prefix_append_right_inj _).mpr hprefix
    · simp

/-- What is admitted is what it is said to be, and is not the file that is kept out under the
name of that. -/
theorem Admitted.name_ne {p : Placed} (hd : d.WellFormed) (hopen : k.OpenOn d)
    (h : Admitted d k [key] p) :
  p.Sound ∧ (d.canonical p.path = .ok key → p.path.fileName? ≠ key.fileName?)
  := by
  obtain ⟨relative, context, k', houtlet, hdeed⟩ := h
  obtain ⟨relative', context', bytes, -, hkept, -, hhow, hblock⟩ :=
    Visit.deed_eq_add_iff.mp hdeed.symm
  constructor
  · have hsound := sound_blockOf p.path relative' context' (.ofBytes bytes)
    rw [← hhow, ← hblock] at hsound
    apply hsound
  · intro hkey hname
    rw [isKeptOut_seenDisk hd (hopen.of_outlet houtlet)] at hkept
    simp [isKeptOut, hkey, hname, Except.toOption] at hkept

/-- In a run that succeeds, a file that is to be kept out is visited without getting into the
report exactly if it is visited under its own name. -/
theorem Aggregated.mem_included_iff {globalKey : Option Path} {scope : Scope}
    {paths : List Path} {deeds : List Deed} {s' : Scan} {file relative : Path} {context : Context}
    (h : Aggregated d globalKey scope paths (some path) (start r k) deeds s')
    (hd : d.WellFormed) (hopen : k.OpenOn d) (hkey : d.canonical path = .ok key)
    (hvisit : .file file relative context ∈ argumentsVisits d globalKey scope paths)
    (hfile : d.canonical file = .ok key) :
  (∃ how, (file, how) ∈ s'.report.included)
    ↔ d.isFile file = true ∧ file.fileName? ≠ key.fileName?
  := by
  have hkeys : (start r k).excluded ++ keysOf d (some path) = [key] := by
    rw [keysOf, hkey]
    rfl
  have hbecomes := h.becomes
  rw [hkeys] at hbecomes
  rw [h.report, included_foldl_record]
  have hkept : isKeptOut [key] d file = decide (key.fileName? = file.fileName?) := by
    simp [isKeptOut, hfile, Except.toOption]
  constructor
  · rintro ⟨how, hmem⟩
    obtain ⟨-, -, -, -, hfree, -, hthere, -⟩ := exists_visit_of_added hd hopen hbecomes hmem
    rw [hkept, decide_eq_false_iff_not] at hfree
    use hthere
    apply Ne.symm hfree
  · rintro ⟨hthere, hname⟩
    have hfree : isKeptOut [key] d file = false := by
      rw [hkept, decide_eq_false_iff_not]
      apply Ne.symm hname
    obtain ⟨how, hmem⟩ := exists_added_of_visit hd hopen hbecomes hvisit hfree hthere
    use how
    apply List.mem_append_right _ hmem

end

/-- An aggregation that is to keep out the file at `path`, in two parts.

1. However it ends, the report has none but files that do not lead to this file under its own
   name, and neither has the document, in which the block of the last file may be torn.
2. If it succeeds, a file that it visits and that leads to this file gets into the report exactly
   if it has another name. -/
theorem aggregate_excluding {d : Disk} {scope : Scope} {paths : List Path} {path key : Path}
    {r : Resolver} {k : Sink} (hd : d.WellFormed) (hopen : k.OpenOn d)
    (hkey : d.canonical path = .ok key) :
  (∃ placed,
    (aggregate d scope paths (some path) (start r k)).state.report.included <+: filesOf placed
    ∧ (aggregate d scope paths (some path) (start r k)).state.sink.written
      <+: k.written ++ Text.bytesOf (Document.header k.generator) ++ blocksOf placed
    ∧ (∀ report, (aggregate d scope paths (some path) (start r k)).result = .ok report →
      Composed k report (aggregate d scope paths (some path) (start r k)).state.sink.written
        placed)
    ∧ ∀ p ∈ placed, p.Sound ∧ (d.canonical p.path = .ok key → p.path.fileName? ≠ key.fileName?))
  ∧ ∀ globalKey report, Ready d globalKey (start r k) →
    (aggregate d scope paths (some path) (start r k)).result = .ok report →
    ∀ file relative context,
      .file file relative context ∈ argumentsVisits d globalKey scope paths →
      d.canonical file = .ok key →
        ((∃ how, (file, how) ∈ report.included)
          ↔ d.isFile file = true ∧ file.fileName? ≠ key.fileName?)
  := by
  have hmeets := meets_aggregate_excluding (r := r) hd hopen hkey scope paths
  constructor
  · cases hresult : (aggregate d scope paths (some path) (start r k)).result with
    | ok report =>
      obtain ⟨rfl, placed, hwhole⟩ := hmeets.of_ok hresult
      use placed
      rw [hwhole.included, hwhole.written]
      use List.prefix_refl _, List.prefix_refl _
      have hsound := fun p hp => (hwhole.admitted p hp).name_ne hd hopen
      constructor
      · intro report hreport
        obtain rfl := Except.ok.inj hreport
        use hwhole.included, rfl
        intro p hp
        apply (hsound p hp).1
      · apply hsound
    | error failure =>
      obtain ⟨placed, hincluded, hwritten, hadmitted⟩ := hmeets.of_error hresult
      use placed, hincluded, hwritten
      constructor
      · simp
      · intro p hp
        apply (hadmitted p hp).name_ne hd hopen
  · intro globalKey report hs hresult file relative context hvisit hfile
    obtain ⟨rfl, deeds, hdone⟩ := (meets_aggregate hs scope paths (some path)).of_ok hresult
    apply hdone.mem_included_iff hd hopen hkey hvisit hfile

/-! ### A file that is named by a link -/

/-- A file `f`, and a link `o` to it. -/
def aliasDisk : Disk :=
  ⟨.dir (.cons ['f'] (.file [120]) (.cons ['o'] (.link ['f']) .nil)), []⟩

theorem aliasDisk_wellFormed :
  aliasDisk.WellFormed
  := by
  have hf : Name.Valid ['f'] := by constructor <;> decide
  have ho : Name.Valid ['o'] := by constructor <;> decide
  constructor
  · simp only [aliasDisk, Node.WellFormed, Entries.WellFormed, hf, ho, Entries.names_cons,
      Entries.names_nil, true_and, and_true]
    decide
  · rfl

theorem aliasDisk_node? :
  aliasDisk.node? ⟨"."⟩ = .ok aliasDisk.root
  := by cbv

theorem aliasPath_eq :
  (⟨"."⟩ : Path).entry ['o'] = ⟨"./o"⟩
  := by decide

/-- Both the file and the link are visited. -/
theorem aliasDisk_visits :
  argumentsVisits aliasDisk none .empty [⟨"."⟩]
    = [.file ((⟨"."⟩ : Path).entry ['f']) (.ofNames [['f']]) (Context.empty.extended .empty),
      .file ((⟨"."⟩ : Path).entry ['o']) (.ofNames [['o']]) (Context.empty.extended .empty)]
  := by
  have hcontext : Scope.empty.contextAt ⟨"."⟩ = .ok .empty := rfl
  have hown : Resolver.ownContext aliasDisk none ⟨"."⟩ = .ok .empty := by
    apply Resolver.ownContext_eq_empty aliasDisk_node?
    decide
  have hignored (path : Path) :
      (Context.empty.extended .empty).patterns.isIgnored path false = false := rfl
  have hlink : aliasDisk.isFile ((⟨"."⟩ : Path).entry ['o']) = true := by
    rw [aliasPath_eq]
    cbv
  rw [argumentsVisits_of_isDir _ _ (Disk.isDir_of_node? aliasDisk_node?), hcontext]
  simp only [directoryVisits, hown, rootEntries_of_node? aliasDisk_node?, entriesVisits]
  simp [filesVisits, dirsVisits, nodeVisits, fileVisits, Disk.isFileEntry, hignored, hlink,
    Node.isDir, Node.isFile]

/-- The aggregation that is to keep out `o` succeeds, and `o` gets into the document. -/
theorem aggregate_excluding_alias :
  ∃ report, (aggregate aliasDisk .empty [⟨"."⟩] (some ⟨"o"⟩) inMemory).result = .ok report
    ∧ ∃ how, ((⟨"."⟩ : Path).entry ['o'], how) ∈ report.included
  := by
  obtain ⟨report, hok⟩ := aggregate_succeeds (inMemory_ready aliasDisk_wellFormed) .empty [⟨"."⟩]
    (some ⟨"o"⟩) inMemory_boundless (by simp [inMemory, start, Sink.empty])
    (by simp [aliasDisk_visits])
  have hopen : inMemory.sink.OpenOn aliasDisk :=
    (Sink.offDisk_of_memory rfl : inMemory.sink.OffDisk).openOn aliasDisk
  have hkey : aliasDisk.canonical ⟨"o"⟩ = .ok ⟨"/f"⟩ := by cbv
  have hvisit : .file ((⟨"."⟩ : Path).entry ['o']) (.ofNames [['o']])
      (Context.empty.extended .empty) ∈ argumentsVisits aliasDisk none .empty [⟨"."⟩] := by
    rw [aliasDisk_visits]
    apply List.mem_cons_of_mem _ List.mem_cons_self
  use report, hok
  apply ((aggregate_excluding aliasDisk_wellFormed hopen hkey).2 none report
    (inMemory_ready aliasDisk_wellFormed) hok _ _ _ hvisit ?_).mpr
  · rw [aliasPath_eq]
    constructor
    · cbv
    · decide
  · rw [aliasPath_eq]
    cbv

end Compendium.Scan
