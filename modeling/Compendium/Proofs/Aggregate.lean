import Compendium.Proofs.Scan.Walk

/-!
# What an aggregation leaves

An aggregation that succeeds has made all visits of its path arguments.  The document is the
header followed by the blocks of the files that were added, in the order of the report.
-/

namespace Compendium.Scan

/-- The keys of the file that an aggregation keeps out of the document. -/
def keysOf (d : Disk) : Option Path → List Path
  | none => []
  | some path => (d.canonical path).toOption.toList

theorem mem_keysOf_iff {d : Disk} {excluded : Option Path} {key : Path} :
  key ∈ keysOf d excluded
    ↔ ∃ path m, excluded = some path ∧ d.locate .content path = .ok m ∧ Disk.pathOf m = key
  := by
  cases excluded with
  | none => simp [keysOf]
  | some path => simp [keysOf, Disk.toOption_canonical_iff]

/-- What an aggregation has done when it succeeds, with the deeds that have become of its
visits. -/
structure Aggregated (d : Disk) (globalKey : Option Path) (scope : Scope) (paths : List Path)
    (excluded : Option Path) (s : Scan) (deeds : List Deed) (s' : Scan) : Prop where
  becomes : List.Forall₂ (Becomes d s.sink (s.excluded ++ keysOf d excluded))
    (argumentsVisits d globalKey scope paths) deeds
  goes : Goes deeds
  report : s'.report = deeds.foldl Deed.record s.report
  document : s'.sink.written = s.sink.written ++ Text.bytesOf (Document.header s.sink.generator)
    ++ deeds.flatMap Deed.bytes

/-- Why an aggregation can fail. -/
inductive Fails (d : Disk) (globalKey : Option Path) (scope : Scope) (paths : List Path)
    (k : Sink) : Prop where
  | broken (path : Path) (cause : Failure)
    (h : .broken path cause ∈ argumentsVisits d globalKey scope paths)
  | full (h : ¬ k.Boundless)
  | flush (limit : Option Nat) (h : k.outlet = .memory limit true)

/-- A report comes from another by what has become of visits, of which `rest` have not been
made. -/
def Reports (d : Disk) (k : Sink) (keys : List Path) (visits rest : List Visit)
    (report report' : Report) : Prop :=
  ∃ made deeds, visits = made ++ rest ∧ List.Forall₂ (Becomes d k keys) made deeds
    ∧ report' = deeds.foldl Deed.record report

theorem Aggregated.reports {d : Disk} {globalKey : Option Path} {scope : Scope}
    {paths : List Path} {excluded : Option Path} {s s' : Scan} {deeds : List Deed}
    (h : Aggregated d globalKey scope paths excluded s deeds s') :
  Reports d s.sink (s.excluded ++ keysOf d excluded) (argumentsVisits d globalKey scope paths) []
    s.report s'.report
  := ⟨_, deeds, (List.append_nil _).symm, h.becomes, h.report⟩

theorem Fails.of_outlet {d : Disk} {globalKey : Option Path} {scope : Scope}
    {paths : List Path} {k k' : Sink} (h : Fails d globalKey scope paths k')
    (hk : k'.outlet = k.outlet) :
  Fails d globalKey scope paths k
  := by
  cases h with
  | broken path cause h => exact .broken path cause h
  | full h =>
    rw [Sink.Boundless, hk] at h
    exact .full h
  | flush limit h => exact .flush limit (hk ▸ h)

section

variable {d : Disk} {globalKey : Option Path} {s : Scan}

theorem Ready.begun (hs : Ready d globalKey s) {bytes : List UInt8} {k : Sink}
    (hk : Sink.Took s.sink bytes k) (keys : List Path) :
  Ready d globalKey { s with sink := k, excluded := keys }
  := by
  use hs.wellFormed, hs.faithful, hs.globalKey, hk.openOn hs.openOn
  rw [hk.outlet]
  apply hs.apart

/-- A file is kept out by its key, which is the same while the document is on its way. -/
theorem meets_exclude (hs : Ready d globalKey s) (path : Path) {done : Unit → Scan → Prop}
    {failed : Failure → Scan → Prop} :
  (exclude d path).Meets s done failed
    ↔ done () { s with excluded := s.excluded ++ keysOf d (some path) }
  := by
  rw [exclude, Action.meets_bind, meets_seenDisk, hs.sameShape.canonical, keysOf]
  cases d.canonical path with
  | ok key => rfl
  | error fault =>
    rw [Action.meets_tell, Except.toOption, Option.toList_none, List.append_nil]

/-- Only a memory that fails when it is flushed fails at the end. -/
theorem meets_finishing (s : Scan) :
  (sinking Sink.finish).Meets s
    (fun _ s' => ∃ k, Sink.Took s.sink [] k ∧ s' = { s with sink := k })
    (fun _ s' => (∃ limit, s.sink.outlet = .memory limit true)
      ∧ ∃ k, Sink.Took s.sink [] k ∧ s' = { s with sink := k })
  := by
  rw [sinking, Action.meets_within, Action.meets_iff]
  constructor
  · intro _ hok
    exact ⟨_, (Sink.meets_finish s.sink).of_ok hok, rfl⟩
  · intro failure herror
    refine ⟨?_, _, (Sink.meets_finish s.sink).of_error herror, rfl⟩
    cases ho : s.sink.outlet with
    | memory limit flushFails =>
      cases flushFails with
      | true => use limit
      | false => simp [Sink.finish, ho] at herror
    | file location => simp [Sink.finish, ho] at herror
    | console => simp [Sink.finish, ho] at herror

/-- The header is written first. -/
theorem meets_beginning (s : Scan) :
  (sinking Sink.begin).Meets s
    (fun _ s' => ∃ k, s' = { s with sink := k }
      ∧ Sink.Took s.sink (Text.bytesOf (Document.header s.sink.generator)) k)
    (fun _ s' => ¬ s.sink.Boundless ∧ ∃ torn k, s' = { s with sink := k }
      ∧ torn <+: Text.bytesOf (Document.header s.sink.generator) ∧ Sink.Took s.sink torn k)
  := by
  rw [sinking, Action.meets_within, Sink.begin, Action.meets_bind, Action.meets_state]
  apply (Sink.meets_writeBytes s.sink _).mono
  · intro _ k hk
    exact ⟨k, rfl, hk⟩
  · rintro failure k ⟨hbound, -, torn, hprefix, -, hk⟩
    exact ⟨hbound, torn, k, rfl, hprefix, hk⟩

/-- What is left of an aggregation once the header has been written and it is known what is kept
out. -/
def concluding (d : Disk) (scope : Scope) (paths : List Path) : Action Scan Report := do
  arguments d scope paths
  let report := (← Action.state).report
  sinking Sink.finish
  Action.tell
    (.aggregated report.included.length report.skipped.length report.failures.length)
  return report

theorem aggregate_none (d : Disk) (scope : Scope) (paths : List Path) :
  aggregate d scope paths none = (do
    sinking Sink.begin
    concluding d scope paths)
  := rfl

theorem aggregate_some (d : Disk) (scope : Scope) (paths : List Path) (path : Path) :
  aggregate d scope paths (some path) = (do
    sinking Sink.begin
    exclude d path
    concluding d scope paths)
  := rfl

theorem meets_concluding (hs : Ready d globalKey s) (scope : Scope) (paths : List Path) :
  (concluding d scope paths).Meets s
    (fun report s' => report = s'.report ∧ ∃ deeds,
      List.Forall₂ (Becomes d s.sink s.excluded) (argumentsVisits d globalKey scope paths) deeds
        ∧ Goes deeds ∧ s'.report = deeds.foldl Deed.record s.report
        ∧ s'.sink.written = s.sink.written ++ deeds.flatMap Deed.bytes)
    (fun _ s' => Fails d globalKey scope paths s.sink ∧ ∃ rest,
      Reports d s.sink s.excluded (argumentsVisits d globalKey scope paths) rest s.report s'.report)
  := by
  simp only [concluding, Action.meets_bind, Action.meets_state, Action.meets_tell,
    Action.meets_pure]
  apply (makes_arguments scope paths hs).mono
  · rintro _ s' ⟨deeds, hdeeds, hgoes, hdid⟩
    apply (meets_finishing s').mono
    · rintro _ s'' ⟨k, hk, rfl⟩
      use rfl, deeds, hdeeds, hgoes, hdid.report
      rw [hk.written, hdid.sink.written, List.append_nil, List.append_nil]
    · rintro failure s'' ⟨⟨limit, ho⟩, k, -, rfl⟩
      rw [hdid.sink.outlet] at ho
      exact ⟨.flush limit ho, [], _, deeds, (List.append_nil _).symm, hdeeds, hdid.report⟩
  · rintro failure s' ⟨made, visit, rest, deeds, deed, torn, heq, hdeeds, -, hdeed, hstops, hdid⟩
    refine ⟨?_, visit :: rest, made, deeds, heq, hdeeds, hdid.report⟩
    rcases hstops with ⟨⟨cause, rfl⟩, -⟩ | ⟨hbound, -⟩
    · obtain ⟨k, -, hstop⟩ := hdeed
      obtain ⟨path, rfl⟩ := Visit.deed_eq_stop_iff.mp hstop.symm
      exact .broken path cause (by simp [heq])
    · exact .full hbound

/-- An aggregation comes to its conclusion, unless the sink refuses the header. -/
theorem meets_aggregate_of (hs : Ready d globalKey s) {scope : Scope} {paths : List Path}
    {excluded : Option Path} {done : Report → Scan → Prop} {failed : Failure → Scan → Prop}
    (hrest : ∀ k, Sink.Took s.sink (Text.bytesOf (Document.header s.sink.generator)) k →
      (concluding d scope paths).Meets
        { s with sink := k, excluded := s.excluded ++ keysOf d excluded } done failed)
    (hfull : ∀ failure k, ¬ s.sink.Boundless → failed failure { s with sink := k }) :
  (aggregate d scope paths excluded).Meets s done failed
  := by
  cases excluded with
  | none =>
    rw [aggregate_none, Action.meets_bind]
    apply (meets_beginning s).mono
    · rintro _ s' ⟨k, rfl, hk⟩
      simpa [keysOf] using hrest k hk
    · rintro failure s' ⟨hbound, torn, k, rfl, -, -⟩
      apply hfull failure k hbound
  | some path =>
    rw [aggregate_some, Action.meets_bind]
    apply (meets_beginning s).mono
    · rintro _ s' ⟨k, rfl, hk⟩
      rw [Action.meets_bind]
      apply (meets_exclude (hs.begun hk s.excluded) path).mpr (hrest k hk)
    · rintro failure s' ⟨hbound, torn, k, rfl, -, -⟩
      apply hfull failure k hbound

/-- What an aggregation ends with.  If it fails, it has made visits from the first one on. -/
theorem meets_aggregate (hs : Ready d globalKey s) (scope : Scope) (paths : List Path)
    (excluded : Option Path) :
  (aggregate d scope paths excluded).Meets s
    (fun report s' => report = s'.report
      ∧ ∃ deeds, Aggregated d globalKey scope paths excluded s deeds s')
    (fun _ s' => Fails d globalKey scope paths s.sink ∧ ∃ rest,
      Reports d s.sink (s.excluded ++ keysOf d excluded) (argumentsVisits d globalKey scope paths)
        rest s.report s'.report)
  := by
  apply meets_aggregate_of hs
  · intro k hk
    have hbecomes := becomes_congr (d := d) hk.outlet (s.excluded ++ keysOf d excluded)
    apply (meets_concluding (hs.begun hk _) scope paths).mono
    · rintro report s' ⟨hreport, deeds, hdeeds, hgoes, hrecord, hwritten⟩
      rw [hbecomes] at hdeeds
      use hreport, deeds, hdeeds, hgoes, hrecord
      rw [hwritten, hk.written]
    · rintro failure s' ⟨hfails, rest, made, deeds, heq, hdeeds, hreport⟩
      rw [hbecomes] at hdeeds
      use hfails.of_outlet hk.outlet, rest, made, deeds, heq, hdeeds, hreport
  · intro failure k hbound
    exact ⟨.full hbound, _, [], [], rfl, .nil, rfl⟩

/-- An aggregation that succeeds has flushed its sink. -/
theorem flushes_of_ok (hs : Ready d globalKey s) {scope : Scope} {paths : List Path}
    {excluded : Option Path} {report : Report}
    (hok : (aggregate d scope paths excluded s).result = .ok report) :
  ∀ limit, s.sink.outlet ≠ .memory limit true
  := by
  have hmeets : (aggregate d scope paths excluded).Meets s
      (fun _ _ => ∀ limit, s.sink.outlet ≠ .memory limit true) (fun _ _ => True) := by
    apply meets_aggregate_of hs
    · intro k hk
      simp only [concluding, Action.meets_bind, Action.meets_state, Action.meets_tell,
        Action.meets_pure]
      apply (makes_arguments scope paths (hs.begun hk _)).mono
      · rintro _ s' ⟨deeds, -, -, hdid⟩
        have houtlet : s'.sink.outlet = s.sink.outlet := hdid.sink.outlet.trans hk.outlet
        rw [sinking, Action.meets_within, Action.meets_iff]
        constructor
        · intro _ hfinish limit ho
          rw [Sink.finish, houtlet, ho] at hfinish
          cases hfinish
        · intro _ _
          trivial
      · intro _ _ _
        trivial
    · intro _ _ _
      trivial
  apply hmeets.of_ok hok

/-- An aggregation succeeds if no configuration is broken and the sink takes everything. -/
theorem aggregate_succeeds (hs : Ready d globalKey s) (scope : Scope) (paths : List Path)
    (excluded : Option Path) (hsink : s.sink.Boundless)
    (hflush : ∀ limit, s.sink.outlet ≠ .memory limit true)
    (hvisits : ∀ path failure, .broken path failure ∉ argumentsVisits d globalKey scope paths) :
  ∃ report, (aggregate d scope paths excluded s).result = .ok report
  := by
  have hmeets := meets_aggregate hs scope paths excluded
  cases hresult : (aggregate d scope paths excluded s).result with
  | ok report => use report
  | error failure =>
    cases (hmeets.of_error hresult).1 with
    | broken path cause h => apply absurd h (hvisits path cause)
    | full h => apply absurd hsink h
    | flush limit h => apply absurd h (hflush limit)

end

/-! ### Blocks of the document -/

/-- A file of the report, with its block in the document. -/
structure Placed where
  path : Path
  how : Inclusion
  block : String

/-- Whether the block of a file is what the report says of it. -/
def Placed.Sound (p : Placed) : Prop :=
  match p.how with
  | .binary size => p.block = Document.binaryBlock p.path size
  | .text lines _ _ => ∃ kept, kept.length = lines ∧ p.block = Document.textBlock p.path kept

/-- The file that is put into the document by a deed. -/
def Deed.placed? : Deed → Option Placed
  | .add path how block => some ⟨path, how, block⟩
  | _ => none

theorem Deed.path?_of_placed? {deed : Deed} {p : Placed} (h : deed.placed? = some p) :
  deed.path? = some p.path
  := by
  cases deed <;> simp [placed?] at h
  rw [path?, ← h]

/-- How the report names files. -/
def filesOf (placed : List Placed) : List (Path × Inclusion) :=
  placed.map fun p => (p.path, p.how)

/-- The bytes of the blocks of files. -/
def blocksOf (placed : List Placed) : List UInt8 := placed.flatMap fun p => Text.bytesOf p.block

/-- What a document consists of: the header and then a block for each file of the report, in
order. -/
structure Composed (k : Sink) (report : Report) (written : List UInt8) (placed : List Placed) :
    Prop where
  included : report.included = filesOf placed
  written : written = k.written ++ Text.bytesOf (Document.header k.generator) ++ blocksOf placed
  sound : ∀ p ∈ placed, p.Sound

/-- What a document consists of has to do with what was in the sink before, and not with where
that is. -/
theorem Composed.of_written {k k' : Sink} {report : Report} {written : List UInt8}
    {placed : List Placed} (h : Composed k report written placed)
    (hwritten : k'.written = k.written) (hgenerator : k'.generator = k.generator) :
  Composed k' report written placed
  := ⟨h.included, by rw [hwritten, hgenerator, h.written], h.sound⟩

theorem filterMap_added? (deeds : List Deed) :
  deeds.filterMap Deed.added? = filesOf (deeds.filterMap Deed.placed?)
  := by
  rw [filesOf, List.map_filterMap]
  apply List.filterMap_congr
  intro deed _
  cases deed <;> rfl

theorem flatMap_bytes (deeds : List Deed) :
  deeds.flatMap Deed.bytes = blocksOf (deeds.filterMap Deed.placed?)
  := by
  induction deeds with
  | nil => rfl
  | cons deed deeds ih =>
    rw [List.flatMap_cons, ih]
    cases deed <;> rfl

theorem sound_blockOf (path relative : Path) (context : Context) (content : Content) :
  Placed.Sound ⟨path, inclusionOf relative context content, blockOf path relative context content⟩
  := by
  cases content with
  | binary size => rfl
  | text text =>
    use (context.rules.filter relative (Text.linesOf text)).lines, rfl
    rfl

/-- The document of an aggregation that succeeds has the blocks that the deeds have placed. -/
theorem Aggregated.composed {d : Disk} {globalKey : Option Path} {scope : Scope}
    {paths : List Path} {excluded : Option Path} {r : Resolver} {k : Sink} {deeds : List Deed}
    {s' : Scan} (h : Aggregated d globalKey scope paths excluded (start r k) deeds s') :
  Composed k s'.report s'.sink.written (deeds.filterMap Deed.placed?)
  := by
  constructor
  · rw [h.report, included_foldl_record, filterMap_added?]
    rfl
  · rw [h.document, flatMap_bytes]
    rfl
  · intro p hp
    obtain ⟨deed, hdeed, hplaced⟩ := List.mem_filterMap.mp hp
    obtain ⟨visit, -, k', -, heq⟩ := exists_visit h.becomes hdeed
    cases deed with
    | add path how block =>
      obtain rfl := Option.some.inj hplaced
      obtain ⟨relative, context, bytes, -, -, -, rfl, rfl⟩ := Visit.deed_eq_add_iff.mp heq.symm
      apply sound_blockOf
    | skip path => simp [Deed.placed?] at hplaced
    | note failure => simp [Deed.placed?] at hplaced
    | stop failure => simp [Deed.placed?] at hplaced

end Compendium.Scan
