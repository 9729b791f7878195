import Mathlib.Data.List.Forall2
import Compendium.Proofs.Scan.Plan

/-!
# How a scan makes its visits

A scan makes its visits in order, and carries out the deed that becomes of each.  It stops at a
visit only where a configuration cannot be used or where the sink refuses what is written to it;
then all earlier deeds have been done, and no later one.
-/

namespace Compendium.Scan

/-! ### What becomes of a run -/

/-- Whether a scan can make the visits of a disk.  The file that it writes to, if it does, is
there and is no configuration file. -/
structure Ready (d : Disk) (globalKey : Option Path) (s : Scan) : Prop where
  wellFormed : d.WellFormed
  faithful : s.resolver.Faithful d
  globalKey : s.resolver.globalKey = globalKey
  openOn : s.sink.OpenOn d
  apart : ∀ location, s.sink.outlet = .file location →
    ∀ path, Resolver.IsConfig d path → d.locate .content path ≠ .ok location

/-- A scan that writes to memory and has seen nothing. -/
def inMemory : Scan := start (.empty []) (.empty (.memory none false) ⟨"out.md"⟩ "maid")

/-- Whether a visit can become a deed.  What has been written by then is left open. -/
def Becomes (d : Disk) (k : Sink) (excluded : List Path) (visit : Visit) (deed : Deed) : Prop :=
  ∃ k' : Sink, k'.outlet = k.outlet ∧ deed = visit.deed (k'.seenDisk d) excluded

/-- A scan is followed by another when deeds have been done, and the bytes `torn` have been
written after what they add to the document. -/
structure Did (d : Disk) (deeds : List Deed) (torn : List UInt8) (s s' : Scan) : Prop where
  resolver : Resolver.Extends d s.resolver s'.resolver
  excluded : s'.excluded = s.excluded
  sink : Sink.Took s.sink (deeds.flatMap Deed.bytes ++ torn) s'.sink
  report : s'.report = deeds.foldl Deed.record s.report

/-- Whether none of the deeds stops the scan. -/
def Goes (deeds : List Deed) : Prop := ∀ failure, Deed.stop failure ∉ deeds

/-- Whether a scan stops at a deed, with the bytes `torn` of it written.  How the failure names
a configuration file depends on how that was named when it was read. -/
def Stops (k : Sink) (deed : Deed) (failure : Failure) (torn : List UInt8) : Prop :=
  (∃ cause, deed = .stop cause) ∧ torn = []
    ∨ ¬ k.Boundless ∧ failure = .writing k.target .full ∧ torn <+: deed.bytes
      ∧ torn ≠ deed.bytes

/-- All visits have been made. -/
def MadeAll (d : Disk) (visits : List Visit) (s s' : Scan) : Prop :=
  ∃ deeds, List.Forall₂ (Becomes d s.sink s.excluded) visits deeds ∧ Goes deeds
    ∧ Did d deeds [] s s'

/-- The visits have been made up to one at which the scan has stopped. -/
def Stopped (d : Disk) (visits : List Visit) (failure : Failure) (s s' : Scan) : Prop :=
  ∃ before visit after deeds deed torn, visits = before ++ visit :: after
    ∧ List.Forall₂ (Becomes d s.sink s.excluded) before deeds ∧ Goes deeds
    ∧ Becomes d s.sink s.excluded visit deed ∧ Stops s.sink deed failure torn
    ∧ Did d deeds torn s s'

/-- Whether an action makes visits, all of them or up to one at which it stops. -/
def Makes (d : Disk) (visits : List Visit) (s : Scan) (x : Action Scan Unit) : Prop :=
  x.Meets s (fun _ s' => MadeAll d visits s s') (fun failure s' => Stopped d visits failure s s')

/-! ### One run after the other -/

section

variable {d : Disk} {globalKey : Option Path} {s s' s'' : Scan}

/-- A scan can start with a resolver that is faithful to the disk, if it writes to no file. -/
theorem ready_start (hd : d.WellFormed) {r : Resolver} (hr : r.Faithful d) {k : Sink}
    (hk : k.OffDisk) :
  Ready d r.globalKey (start r k)
  := by
  use hd, hr, rfl, hk.openOn d
  intro location ho
  exact absurd ho (hk location)

theorem inMemory_ready (hd : d.WellFormed) :
  Ready d none inMemory
  := ready_start hd (Resolver.faithful_empty [] d) (Sink.offDisk_of_memory rfl)

theorem inMemory_boundless :
  inMemory.sink.Boundless
  := by simp [Sink.Boundless, inMemory, start, Sink.empty]

theorem Did.refl (h : Ready d globalKey s) :
  Did d [] [] s s
  := ⟨Resolver.Extends.refl h.faithful, rfl, Sink.Took.refl _, rfl⟩

theorem Did.trans {deeds deeds' : List Deed} {torn : List UInt8} (h : Did d deeds [] s s')
    (h' : Did d deeds' torn s' s'') :
  Did d (deeds ++ deeds') torn s s''
  := by
  constructor
  · apply h.resolver.trans h'.resolver
  · apply h'.excluded.trans h.excluded
  · have htook := h.sink.trans h'.sink
    rwa [List.append_nil, ← List.append_assoc, ← List.flatMap_append] at htook
  · rw [h'.report, h.report, List.foldl_append]

/-- A scan stays ready, whatever it does. -/
theorem Did.ready {deeds : List Deed} {torn : List UInt8} (h : Did d deeds torn s s')
    (hs : Ready d globalKey s) :
  Ready d globalKey s'
  := by
  constructor
  · apply hs.wellFormed
  · apply h.resolver.faithful
  · apply h.resolver.globalKey.trans hs.globalKey
  · apply h.sink.openOn hs.openOn
  · rw [h.sink.outlet]
    apply hs.apart

theorem Goes.append {deeds deeds' : List Deed} (h : Goes deeds) (h' : Goes deeds') :
  Goes (deeds ++ deeds')
  := by
  intro failure hmem
  rcases List.mem_append.mp hmem with hmem | hmem
  · apply h failure hmem
  · apply h' failure hmem

/-- What can become of a visit depends on the outlet of the sink only. -/
theorem becomes_congr {k k' : Sink} (h : k'.outlet = k.outlet) (excluded : List Path) :
  Becomes d k' excluded = Becomes d k excluded
  := by
  funext visit deed
  rw [Becomes, Becomes, h]

theorem Did.becomes_eq {deeds : List Deed} {torn : List UInt8} (h : Did d deeds torn s s') :
  Becomes d s'.sink s'.excluded = Becomes d s.sink s.excluded
  := by
  rw [becomes_congr h.sink.outlet, h.excluded]

theorem MadeAll.ready {visits : List Visit} (h : MadeAll d visits s s')
    (hs : Ready d globalKey s) :
  Ready d globalKey s'
  := by
  obtain ⟨deeds, -, -, hdid⟩ := h
  apply hdid.ready hs

theorem MadeAll.nil (hs : Ready d globalKey s) :
  MadeAll d [] s s
  := ⟨[], .nil, by simp [Goes], Did.refl hs⟩

theorem MadeAll.append {visits visits' : List Visit} (h : MadeAll d visits s s')
    (h' : MadeAll d visits' s' s'') :
  MadeAll d (visits ++ visits') s s''
  := by
  obtain ⟨deeds, hdeeds, hgoes, hdid⟩ := h
  obtain ⟨deeds', hdeeds', hgoes', hdid'⟩ := h'
  rw [hdid.becomes_eq] at hdeeds'
  use deeds ++ deeds', List.rel_append hdeeds hdeeds', hgoes.append hgoes'
  apply hdid.trans hdid'

theorem Stopped.append_right {visits : List Visit} {failure : Failure}
    (h : Stopped d visits failure s s') (visits' : List Visit) :
  Stopped d (visits ++ visits') failure s s'
  := by
  obtain ⟨before, visit, after, deeds, deed, torn, rfl, hrest⟩ := h
  use before, visit, after ++ visits', deeds, deed, torn
  exact ⟨by simp, hrest⟩

theorem MadeAll.stopped {visits visits' : List Visit} {failure : Failure}
    (h : MadeAll d visits s s') (h' : Stopped d visits' failure s' s'') :
  Stopped d (visits ++ visits') failure s s''
  := by
  obtain ⟨deeds, hdeeds, hgoes, hdid⟩ := h
  obtain ⟨before, visit, after, deeds', deed, torn, rfl, hdeeds', hgoes', hdeed, hstops, hdid'⟩
    := h'
  rw [hdid.becomes_eq] at hdeeds' hdeed
  have hsink : Stops s.sink deed failure torn := by
    rw [Stops, Sink.Boundless] at hstops
    rw [hdid.sink.outlet, hdid.sink.target] at hstops
    apply hstops
  use visits ++ before, visit, after, deeds ++ deeds', deed, torn
  use by simp, List.rel_append hdeeds hdeeds', hgoes.append hgoes', hdeed, hsink
  apply hdid.trans hdid'

/-- Where there is nothing to visit, nothing is done. -/
theorem makes_nil (hs : Ready d globalKey s) :
  Makes d [] s (pure ())
  := MadeAll.nil hs

/-- Visits are made one after the other. -/
theorem Makes.bind {visits visits' : List Visit} {x : Action Scan Unit}
    {f : Unit → Action Scan Unit} (hs : Ready d globalKey s) (hx : Makes d visits s x)
    (hf : ∀ s', Ready d globalKey s' → Makes d visits' s' (f ())) :
  Makes d (visits ++ visits') s (x >>= f)
  := by
  rw [Makes, Action.meets_bind]
  apply hx.mono
  · intro _ s' hmade
    apply (hf s' (hmade.ready hs)).mono
    · intro _ s'' hmade'
      apply hmade.append hmade'
    · intro failure s'' hstopped
      apply hmade.stopped hstopped
  · intro failure s' hstopped
    apply hstopped.append_right

/-- What is done at first without visits does not count. -/
theorem Makes.after {visits : List Visit} {x : Action Scan Unit} (hx : Makes d visits s' x)
    (h : MadeAll d [] s s') :
  x.Meets s' (fun _ s'' => MadeAll d visits s s'')
    (fun failure s'' => Stopped d visits failure s s'')
  := by
  apply hx.mono
  · intro _ s'' hmade
    apply h.append hmade
  · intro failure s'' hstopped
    apply h.stopped hstopped

end

/-! ### Visits and their deeds -/

theorem exists_deed {becomes : Visit → Deed → Prop} {visits : List Visit} {deeds : List Deed}
    (h : List.Forall₂ becomes visits deeds) {visit : Visit} (hvisit : visit ∈ visits) :
  ∃ deed ∈ deeds, becomes visit deed
  := by
  induction h with
  | nil => simp at hvisit
  | cons hhead _ ih =>
    rcases List.mem_cons.mp hvisit with rfl | hvisit
    · exact ⟨_, List.mem_cons_self, hhead⟩
    · obtain ⟨deed, hdeed, hbecomes⟩ := ih hvisit
      use deed, List.mem_cons_of_mem _ hdeed, hbecomes

theorem exists_visit {becomes : Visit → Deed → Prop} {visits : List Visit} {deeds : List Deed}
    (h : List.Forall₂ becomes visits deeds) {deed : Deed} (hdeed : deed ∈ deeds) :
  ∃ visit ∈ visits, becomes visit deed
  := by
  induction h with
  | nil => simp at hdeed
  | cons hhead _ ih =>
    rcases List.mem_cons.mp hdeed with rfl | hdeed
    · exact ⟨_, List.mem_cons_self, hhead⟩
    · obtain ⟨visit, hvisit, hbecomes⟩ := ih hdeed
      use visit, List.mem_cons_of_mem _ hvisit, hbecomes

/-! ### Files -/

section

variable {d : Disk} {globalKey : Option Path} {s : Scan}

@[simp]
theorem meets_seenDisk {done : Disk → Scan → Prop} {failed : Failure → Scan → Prop} :
  (seenDisk d).Meets s done failed ↔ done (s.sink.seenDisk d) s
  := Iff.rfl

/-- A visit is made by doing the deed that becomes of it. -/
theorem makes_of_deed {visit : Visit} {deed : Deed} {x : Action Scan Unit}
    (hdeed : Becomes d s.sink s.excluded visit deed)
    (hx : x.Meets s (fun _ s' => Goes [deed] ∧ Did d [deed] [] s s')
      fun failure s' => ∃ torn, Stops s.sink deed failure torn ∧ Did d [] torn s s') :
  Makes d [visit] s x
  := by
  apply hx.mono
  · rintro _ s' ⟨hgoes, hdid⟩
    use [deed], .cons hdeed .nil
  · rintro failure s' ⟨torn, hstops, hdid⟩
    use [], visit, [], [], deed, torn, rfl, .nil, by simp [Goes], hdeed

/-- What becomes of a visit in a disk that is read now. -/
theorem becomes_now (visit : Visit) :
  Becomes d s.sink s.excluded visit (visit.deed (s.sink.seenDisk d) s.excluded)
  := ⟨s.sink, rfl, rfl⟩

/-- A visit adds a file if that is visited, not kept out, and can be read. -/
theorem Visit.deed_eq_add_iff {seen : Disk} {excluded : List Path} {visit : Visit}
    {path : Path} {how : Inclusion} {block : String} :
  visit.deed seen excluded = .add path how block
    ↔ ∃ relative context bytes, visit = .file path relative context
      ∧ isKeptOut excluded seen path = false ∧ seen.read path = .ok bytes
      ∧ how = inclusionOf relative context (.ofBytes bytes)
      ∧ block = blockOf path relative context (.ofBytes bytes)
  := by
  cases visit with
  | ignored path' => simp [Visit.deed]
  | unlisted path' fault => simp [Visit.deed]
  | broken path' failure => simp [Visit.deed]
  | file path' relative context =>
    rw [Visit.deed, fileDeed]
    cases hkept : isKeptOut excluded seen path' with
    | true =>
      simp only [if_true, reduceCtorEq, false_iff]
      rintro ⟨relative', context', bytes, heq, hkept', -⟩
      obtain ⟨rfl, -, -⟩ := Visit.file.inj heq
      simp [hkept] at hkept'
    | false =>
      rw [if_neg (by simp)]
      cases hread : seen.read path' with
      | error fault =>
        simp only [reduceCtorEq, false_iff]
        rintro ⟨relative', context', bytes, heq, -, hread', -⟩
        obtain ⟨rfl, -, -⟩ := Visit.file.inj heq
        simp [hread] at hread'
      | ok bytes =>
        constructor
        · intro heq
          obtain ⟨rfl, rfl, rfl⟩ := Deed.add.inj heq
          exact ⟨relative, context, bytes, rfl, hkept, hread, rfl, rfl⟩
        · rintro ⟨relative', context', bytes', heq, -, hread', rfl, rfl⟩
          obtain ⟨rfl, rfl, rfl⟩ := Visit.file.inj heq
          obtain rfl := Except.ok.inj (hread.symm.trans hread')
          rfl

/-- While a document is written, the same files are kept out. -/
theorem isKeptOut_seenDisk (hd : d.WellFormed) {k : Sink} (hopen : k.OpenOn d)
    (keys : List Path) (file : Path) :
  isKeptOut keys (k.seenDisk d) file = isKeptOut keys d file
  := by
  apply isKeptOut_congr ((hopen.sameShape hd).canonical file)

/-- What is added is a file that is visited, and is not kept out. -/
theorem exists_visit_of_added (hd : d.WellFormed) {k : Sink} (hopen : k.OpenOn d)
    {keys : List Path} {visits : List Visit} {deeds : List Deed}
    (hdeeds : List.Forall₂ (Becomes d k keys) visits deeds) {file : Path} {how : Inclusion}
    (hmem : (file, how) ∈ deeds.filterMap Deed.added?) :
  ∃ relative context bytes, .file file relative context ∈ visits ∧ isKeptOut keys d file = false
    ∧ how = inclusionOf relative context (.ofBytes bytes) ∧ d.isFile file = true
    ∧ ((∀ location, k.outlet = .file location → d.locate .content file ≠ .ok location) →
      d.read file = .ok bytes)
  := by
  obtain ⟨deed, hdeed, hadded⟩ := List.mem_filterMap.mp hmem
  cases deed with
  | skip path => simp [Deed.added?] at hadded
  | note failure => simp [Deed.added?] at hadded
  | stop failure => simp [Deed.added?] at hadded
  | add path how' block =>
    obtain ⟨rfl, rfl⟩ := Prod.mk.inj (Option.some.inj hadded)
    obtain ⟨visit, hvisit, k', hk, heq⟩ := exists_visit hdeeds hdeed
    obtain ⟨relative, context, bytes, rfl, hfree, hread, hhow, -⟩ :=
      Visit.deed_eq_add_iff.mp heq.symm
    have hopen' := hopen.of_outlet hk
    rw [isKeptOut_seenDisk hd hopen'] at hfree
    use relative, context, bytes, hvisit, hfree, hhow
    constructor
    · rw [← (hopen'.sameShape hd).isFile]
      apply Disk.isFile_iff.mpr ⟨bytes, hread⟩
    · intro hown
      rwa [hopen'.read_seenDisk hd (hk ▸ hown)] at hread

/-- A file that is visited and there is added, unless it is kept out. -/
theorem exists_added_of_visit (hd : d.WellFormed) {k : Sink} (hopen : k.OpenOn d)
    {keys : List Path} {visits : List Visit} {deeds : List Deed}
    (hdeeds : List.Forall₂ (Becomes d k keys) visits deeds) {file relative : Path}
    {context : Context} (hvisit : .file file relative context ∈ visits)
    (hfree : isKeptOut keys d file = false) (hfile : d.isFile file = true) :
  ∃ how, (file, how) ∈ deeds.filterMap Deed.added?
  := by
  obtain ⟨deed, hdeed, k', hk, rfl⟩ := exists_deed hdeeds hvisit
  have hopen' := hopen.of_outlet hk
  rw [← isKeptOut_seenDisk hd hopen'] at hfree
  rw [← (hopen'.sameShape hd).isFile] at hfile
  obtain ⟨bytes, hbytes⟩ := Disk.isFile_iff.mp hfile
  have hadd := Visit.deed_eq_add_iff.mpr
    ⟨relative, context, bytes, rfl, hfree, hbytes, rfl, rfl⟩
  use inclusionOf relative context (.ofBytes bytes)
  rw [hadd] at hdeed
  apply List.mem_filterMap.mpr ⟨_, hdeed, by rfl⟩

/-- A visit stops the scan if a configuration is broken there. -/
theorem Visit.deed_eq_stop_iff {seen : Disk} {excluded : List Path} {visit : Visit}
    {failure : Failure} :
  visit.deed seen excluded = .stop failure ↔ ∃ path, visit = .broken path failure
  := by
  cases visit with
  | ignored path => simp [Visit.deed]
  | unlisted path fault => simp [Visit.deed]
  | broken path failure' => simp [Visit.deed]
  | file path relative context =>
    rw [Visit.deed, fileDeed]
    split
    · simp
    · split <;> simp

/-- Some deeds are seen in the report only. -/
theorem did_record (hs : Ready d globalKey s) {deed : Deed} (h : deed.bytes = []) :
  Did d [deed] [] s { s with report := deed.record s.report }
  := by
  use Resolver.Extends.refl hs.faithful, rfl
  · simpa [h] using Sink.Took.refl s.sink
  · rfl

theorem makes_ignored (hs : Ready d globalKey s) (path : Path) (isDir : Bool)
    (because : ScopedPattern) :
  Makes d [.ignored path] s (ignore path isDir because)
  := by
  apply makes_of_deed (becomes_now _)
  simp only [ignore, reporting, Action.meets_bind, Action.meets_tell, Action.meets_change]
  use by simp [Goes, Visit.deed]
  apply did_record hs rfl

theorem makes_unlisted (hs : Ready d globalKey s) (path : Path) (fault : AccessFault) :
  Makes d [.unlisted path fault] s (note (.walking path fault))
  := by
  apply makes_of_deed (becomes_now _)
  simp only [note, reporting, Action.meets_bind, Action.meets_tell, Action.meets_change]
  use by simp [Goes, Visit.deed]
  apply did_record hs rfl

/-- The block of content is written, unless the sink refuses it. -/
theorem meets_includeContent (path relative : Path) (context : Context) (content : Content) :
  (includeContent path relative context content).Meets s
    (fun how s' => how = inclusionOf relative context content
      ∧ ∃ k, Sink.Took s.sink (Text.bytesOf (blockOf path relative context content)) k
        ∧ s' = { s with sink := k })
    (fun failure s' => ¬ s.sink.Boundless ∧ failure = .writing s.sink.target .full
      ∧ ∃ torn, torn <+: Text.bytesOf (blockOf path relative context content)
        ∧ torn ≠ Text.bytesOf (blockOf path relative context content)
        ∧ ∃ k, Sink.Took s.sink torn k ∧ s' = { s with sink := k })
  := by
  cases content with
  | binary size =>
    simp only [includeContent, sinking, Sink.writeBinary, Sink.write, Action.meets_bind,
      Action.meets_tell, Action.meets_within, Action.meets_pure]
    apply (Sink.meets_writeBytes _ _).mono
    · intro _ k htook
      exact ⟨rfl, k, htook, rfl⟩
    · rintro failure k ⟨hbound, hfailure, torn, hprefix, hne, htook⟩
      exact ⟨hbound, hfailure, torn, hprefix, hne, k, htook, rfl⟩
  | text text =>
    simp only [includeContent, sinking, filtering, Sink.writeText, Sink.write, Action.meets_bind,
      Action.meets_tell, Action.meets_tellAll, Action.meets_within, Action.meets_pure]
    apply (Sink.meets_writeBytes _ _).mono
    · intro _ k htook
      exact ⟨rfl, k, htook, rfl⟩
    · rintro failure k ⟨hbound, hfailure, torn, hprefix, hne, htook⟩
      exact ⟨hbound, hfailure, torn, hprefix, hne, k, htook, rfl⟩

/-- A file is visited by including it. -/
theorem makes_includeFile (hs : Ready d globalKey s) (path relative : Path)
    (context : Context) :
  Makes d [.file path relative context] s (includeFile d path relative context)
  := by
  apply makes_of_deed (becomes_now _)
  rw [Visit.deed, fileDeed]
  simp only [includeFile, Action.meets_bind, meets_seenDisk, Action.meets_state]
  by_cases hkept : isKeptOut s.excluded (s.sink.seenDisk d) path = true
  · rw [if_pos hkept, if_pos (by exact hkept)]
    simp only [reporting, Action.meets_bind, Action.meets_tell, Action.meets_change]
    use by simp [Goes]
    apply did_record hs rfl
  · rw [if_neg hkept, if_neg (by exact hkept)]
    cases hread : (s.sink.seenDisk d).read path with
    | error fault =>
      simp only [note, reporting, Action.meets_bind, Action.meets_tell, Action.meets_change]
      use by simp [Goes]
      apply did_record hs rfl
    | ok bytes =>
      simp only [reporting, Action.meets_bind, Action.meets_change]
      apply (meets_includeContent path relative context (.ofBytes bytes)).mono
      · rintro how s' ⟨rfl, k, htook, rfl⟩
        use by simp [Goes], Resolver.Extends.refl hs.faithful, rfl
        · simpa [Deed.bytes] using htook
        · rfl
      · rintro failure s' ⟨hbound, hfailure, torn, hprefix, hne, k, htook, rfl⟩
        use torn, .inr ⟨hbound, hfailure, hprefix, hne⟩, Resolver.Extends.refl hs.faithful, rfl
        · simpa using htook
        · rfl

theorem makes_visitFile (hs : Ready d globalKey s) (context : Context) (path relative : Path)
    (node : Node) :
  Makes d (fileVisits d context path relative node) s
    (visitFile byPatterns d context path relative node)
  := by
  rw [fileVisits, visitFile, byPatterns_bind, PatternSet.isIgnored]
  cases context.patterns.ignoredBy? path false with
  | some because =>
    rw [Option.isSome_some, if_pos rfl]
    apply makes_ignored hs
  | none =>
    have hshape := hs.openOn.sameShape hs.wellFormed
    simp only [Option.isSome_none, Bool.false_eq_true, if_false]
    rw [Makes, Action.meets_bind, meets_seenDisk, hshape.isFileEntry]
    split
    · apply makes_includeFile hs
    · rw [Action.meets_tell]
      apply MadeAll.nil hs

theorem makes_visitFiles (context : Context) (path : Path) (down : List Name) :
  ∀ (entries : Entries) {s : Scan}, Ready d globalKey s →
    Makes d (filesVisits d context path down entries) s
      (visitFiles byPatterns d context path down entries)
  | .nil, _, hs => by
    rw [filesVisits, visitFiles]
    apply makes_nil hs
  | .cons name node rest, _, hs => by
    rw [filesVisits, visitFiles]
    cases node.isDir with
    | true => apply makes_visitFiles context path down rest hs
    | false =>
      apply Makes.bind hs (makes_visitFile hs _ _ _ _)
      intro s' hs'
      apply makes_visitFiles context path down rest hs'

end

/-! ### Directories -/

section

variable {d : Disk} {globalKey : Option Path} {s : Scan}

theorem Ready.sameShape (hs : Ready d globalKey s) :
  Disk.SameShape (s.sink.seenDisk d) d
  := hs.openOn.sameShape hs.wellFormed

/-- All configurations are seen as they are on the disk. -/
theorem Ready.sameConfigs (hs : Ready d globalKey s) :
  Resolver.SameConfigs d (s.sink.seenDisk d)
  := by
  have hshape := hs.sameShape
  constructor
  · intro directory
    rw [Resolver.findConfig?, Resolver.findConfig?]
    congr 1
    funext path
    rw [hshape.isFile]
  · intro path
    rw [Resolver.keyOf, Resolver.keyOf, hshape.canonical]
  · intro path hpath
    rw [hs.openOn.read_seenDisk hs.wellFormed fun location ho => hs.apart location ho path hpath]

/-- The context in a directory is found as the disk says, and nothing else is done. -/
theorem meets_extending (hs : Ready d globalKey s) (above : Context) (path : Path) :
  (resolving (Resolver.extend (s.sink.seenDisk d) above path)).Meets s
    (fun context s' => (∃ own, Resolver.ownContext d globalKey path = .ok own
      ∧ context = above.extended own) ∧ Did d [] [] s s')
    (fun _ s' => (∃ failure, Resolver.ownContext d globalKey path = .error failure)
      ∧ Did d [] [] s s')
  := by
  have hsame := hs.sameConfigs
  have hdid : ∀ r', Resolver.Extends (s.sink.seenDisk d) s.resolver r' →
      Did d [] [] s { s with resolver := r' } := by
    intro r' hext
    exact ⟨⟨hsame.symm.faithful hext.faithful, hext.globalKey⟩, rfl, Sink.Took.refl _, rfl⟩
  rw [hsame.ownContext, ← hs.globalKey, resolving, Action.meets_within]
  apply (Resolver.meets_extend (hs.sameShape.wellFormed hs.wellFormed)
    (hsame.faithful hs.faithful) above path).mono
  · rintro context r' ⟨hext, hown⟩
    use hown
    apply hdid r' hext
  · rintro failure r' ⟨hext, hown⟩
    use hown
    apply hdid r' hext

/-- Visits that depend on the context in a directory are made once that is found.  `after` are
visits that do not depend on it. -/
theorem makes_extending (hs : Ready d globalKey s) (above : Context) {path : Path}
    {found : Except Failure Context} {visits : Context → List Visit} {after : List Visit}
    {f : Disk → Context → Action Scan Unit}
    (hf : ∀ own s', Ready d globalKey s' →
      Makes d (visits own ++ after) s' (f (s.sink.seenDisk d) (above.extended own))) :
  Resolver.ownContext d globalKey path = found →
    Makes d
      ((match found with
        | .error failure => [.broken path failure]
        | .ok own => visits own) ++ after) s
      (do
        let seen ← seenDisk d
        let context ← resolving (Resolver.extend seen above path)
        f seen context)
  := by
  intro hfound
  rw [Makes, Action.meets_bind, meets_seenDisk, Action.meets_bind]
  apply (meets_extending hs above path).mono
  · rintro context s' ⟨⟨own, hown, rfl⟩, hdid⟩
    rw [hown] at hfound
    rw [← hfound]
    apply (hf own s' (hdid.ready hs)).after
    use [], .nil, by simp [Goes]
  · rintro failure s' ⟨⟨cause, hown⟩, hdid⟩
    rw [hown] at hfound
    rw [← hfound]
    use [], .broken path cause, after, [], .stop cause, [], rfl, .nil, by simp [Goes],
      becomes_now _, .inl ⟨⟨cause, rfl⟩, rfl⟩

theorem makes_visitDirs (context : Context) (path : Path) (down : List Name) :
  ∀ (entries : Entries) {s : Scan}, Ready d globalKey s →
    Makes d (dirsVisits d globalKey context path down entries) s
      (visitDirs byPatterns d context path down entries)
  | .nil, _, hs => by
    rw [dirsVisits, visitDirs]
    apply makes_nil hs
  | .cons name (.file _) rest, _, hs => by
    rw [dirsVisits, visitDirs, nodeVisits, List.nil_append]
    · apply makes_visitDirs context path down rest hs
    · simp
    · simp
  | .cons name (.link _) rest, _, hs => by
    rw [dirsVisits, visitDirs, nodeVisits, List.nil_append]
    · apply makes_visitDirs context path down rest hs
    · simp
    · simp
  | .cons name (.dir entries) rest, s, hs => by
    have hrest := fun s' hs' => makes_visitDirs context path down rest (s := s') hs'
    rw [dirsVisits, visitDirs, byPatterns_bind, nodeVisits, PatternSet.isIgnored]
    cases context.patterns.ignoredBy? (path.entry name) true with
    | some because => apply Makes.bind hs (makes_ignored hs _ _ _) hrest
    | none =>
      -- The context is looked up in the disk, which must not be unfolded to find the match.
      generalize hfound : Resolver.ownContext d globalKey (path.entry name) = found
      refine makes_extending hs context ?_ hfound
      intro own s' hs'
      have hnode := hs.sameShape.node? (path.entry name)
      cases hseen : (s.sink.seenDisk d).node? (path.entry name) <;>
        cases hd : d.node? (path.entry name)
      · obtain rfl : _ = _ := by simpa [hseen, hd, Except.map] using hnode
        apply Makes.bind hs' (makes_unlisted hs' _ _) hrest
      · simp [hseen, hd, Except.map] at hnode
      · simp [hseen, hd, Except.map] at hnode
      · dsimp only
        rw [List.append_assoc]
        apply Makes.bind hs' (makes_visitFiles _ _ _ entries hs')
        intro s'' hs''
        apply Makes.bind hs'' (makes_visitDirs _ _ _ entries hs'') hrest

/-- The root of a scan has entries of the same skeleton, and fails in the same way. -/
theorem rootEntries_skeleton {d' : Disk} (hshape : Disk.SameShape d' d) (root : Path) :
  (rootEntries d' root).map Entries.skeleton = (rootEntries d root).map Entries.skeleton
  := by
  have hnode := hshape.node? root
  rw [rootEntries, rootEntries, hshape.locate]
  cases d.locate .entry root with
  | error fault => rfl
  | ok l =>
    cases hseen : d'.node? root <;> cases hd : d.node? root
    · simpa [hseen, hd, Except.map, bind, Except.bind] using hnode
    · simp [hseen, hd, Except.map] at hnode
    · simp [hseen, hd, Except.map] at hnode
    · rename_i node node'
      have hnode : node.skeleton = node'.skeleton := by simpa [hseen, hd, Except.map] using hnode
      cases node <;> cases node' <;>
        simp_all [Node.skeleton, Except.map, bind, Except.bind, pure, Except.pure]

theorem makes_directory (hs : Ready d globalKey s) (root : Path) (above : Context) :
  Makes d (directoryVisits d globalKey root above) s (directory d root above)
  := by
  rw [directory, directoryBy, Makes, Action.meets_bind, Action.meets_tell]
  change Makes d (directoryVisits d globalKey root above) s _
  rw [← List.append_nil (directoryVisits d globalKey root above), directoryVisits]
  generalize hfound : Resolver.ownContext d globalKey root = found
  refine makes_extending hs above ?_ hfound
  intro own s' hs'
  have hentries := rootEntries_skeleton hs.sameShape root
  cases hseen : rootEntries (s.sink.seenDisk d) root <;> cases hd : rootEntries d root
  · obtain rfl : _ = _ := by simpa [hseen, hd, Except.map] using hentries
    apply makes_unlisted hs'
  · simp [hseen, hd, Except.map] at hentries
  · simp [hseen, hd, Except.map] at hentries
  · rename_i entries entries'
    have hskeleton : entries.skeleton = entries'.skeleton := by
      simpa [hseen, hd, Except.map] using hentries
    dsimp only
    rw [List.append_nil, ← entriesVisits_skeleton, ← hskeleton, entriesVisits_skeleton,
      entriesVisits]
    apply Makes.bind hs' (makes_visitFiles _ _ _ entries hs')
    intro s'' hs''
    apply makes_visitDirs _ _ _ entries hs''

theorem makes_file (hs : Ready d globalKey s) (path : Path) (context : Context) :
  Makes d (askedVisits path context) s (file d path context)
  := by
  rw [askedVisits, file, fileBy, byPatterns_bind, PatternSet.isIgnored]
  cases context.patterns.ignoredBy? path false with
  | some because =>
    rw [Option.isSome_some, if_pos rfl]
    apply makes_of_deed (becomes_now _)
    simp only [reporting, Action.meets_bind, Action.meets_tell, Action.meets_change]
    use by simp [Goes, Visit.deed]
    apply did_record hs rfl
  | none => apply makes_includeFile hs

/-- A failure that is found without the disk stops the scan. -/
theorem makes_ofExcept (hs : Ready d globalKey s) (path : Path) (found : Except Failure Context)
    {visits : Context → List Visit} {f : Context → Action Scan Unit}
    (hf : ∀ context, Makes d (visits context) s (f context)) :
  Makes d (match found with
    | .error failure => [.broken path failure]
    | .ok context => visits context) s (Action.ofExcept found >>= f)
  := by
  rw [Makes, Action.meets_bind]
  cases found with
  | error failure =>
    rw [Action.meets_ofExcept_error]
    use [], .broken path failure, [], [], .stop failure, []
    use rfl, .nil, by simp [Goes], becomes_now _, .inl ⟨⟨failure, rfl⟩, rfl⟩
    apply Did.refl hs
  | ok context =>
    rw [Action.meets_ofExcept_ok]
    apply hf

theorem makes_argument (hs : Ready d globalKey s) (scope : Scope) (path : Path) :
  Makes d (argumentVisits d globalKey scope path) s (argument d scope path)
  := by
  have hshape := hs.sameShape
  rw [argumentVisits, argument, argumentBy, Makes, Action.meets_bind, meets_seenDisk, hshape.isDir,
    hshape.isFile]
  split
  · apply makes_ofExcept hs path (scope.contextAt path)
    intro above
    apply makes_directory hs
  · split
    · apply makes_ofExcept hs path (scope.contextAt (path.parent?.getD ⟨""⟩))
      intro above
      apply makes_file hs
    · rw [Action.meets_tell]
      apply MadeAll.nil hs

theorem makes_arguments (scope : Scope) (paths : List Path) (hs : Ready d globalKey s) :
  Makes d (argumentsVisits d globalKey scope paths) s (arguments d scope paths)
  := by
  induction paths generalizing s with
  | nil => apply makes_nil hs
  | cons path rest ih =>
    apply Makes.bind hs (makes_argument hs scope path)
    intro s' hs'
    apply ih hs'

/-! ### Success -/

end

end Compendium.Scan
