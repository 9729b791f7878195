import Compendium.Proofs.Scan.Arguments
import Compendium.Proofs.Scan.Grown

/-!
# What gets into the document

An aggregation that writes through a buffer writes the header and what its deeds add to the
document, up to the first deed that stops it, and it fails exactly if there is such a deed.  So it
does the same with a document in a new file as with one that goes to the console.
-/

namespace Compendium

namespace Sink

/-- Whether a sink writes through a buffer, to a file or to the console. -/
def Buffered (k : Sink) : Prop := ∀ limit flushFails, k.outlet ≠ .memory limit flushFails

variable {k : Sink}

theorem Buffered.boundless (h : k.Buffered) :
  k.Boundless
  := fun limit => h (some limit)

theorem Buffered.of_outlet {k' : Sink} (h : k.Buffered) (hk : k'.outlet = k.outlet) :
  k'.Buffered
  := by
  intro limit flushFails
  rw [hk]
  apply h limit flushFails

/-- Once the buffer is empty, the outlet has taken all that has been written. -/
theorem Buffered.accepted_drained (h : k.Buffered) :
  k.drained.accepted = k.written
  := by
  rw [written]
  cases ho : k.outlet with
  | memory limit flushFails => apply absurd ho (h limit flushFails)
  | file location => rfl
  | console => rfl

end Sink

namespace Scan

/-! ### What deeds deliver -/

/-- Whether a deed stops the scan. -/
def Deed.stops : Deed → Bool
  | .stop _ => true
  | _ => false

/-- What deeds add to the document, up to the first one that stops the scan. -/
def delivered (deeds : List Deed) : List UInt8 :=
  (deeds.takeWhile fun deed => !deed.stops).flatMap Deed.bytes

theorem goes_iff_stops {deeds : List Deed} :
  Goes deeds ↔ ∀ deed ∈ deeds, deed.stops = false
  := by
  constructor
  · intro hgoes deed hmem
    cases deed with
    | stop failure => apply absurd hmem (hgoes failure)
    | skip => rfl
    | note => rfl
    | add => rfl
  · intro hstops failure hmem
    cases hstops _ hmem

theorem goes_cons_iff {deed : Deed} {deeds : List Deed} :
  Goes (deed :: deeds) ↔ deed.stops = false ∧ Goes deeds
  := by
  rw [goes_iff_stops, goes_iff_stops, List.forall_mem_cons]

theorem delivered_cons (deed : Deed) (deeds : List Deed) :
  delivered (deed :: deeds) = if deed.stops then [] else deed.bytes ++ delivered deeds
  := by
  rw [delivered, List.takeWhile_cons]
  cases deed.stops <;> rfl

/-- Deeds that do not stop the scan deliver all they add. -/
theorem delivered_append_of_goes {before : List Deed} (h : Goes before) (after : List Deed) :
  delivered (before ++ after) = before.flatMap Deed.bytes ++ delivered after
  := by
  rw [goes_iff_stops] at h
  rw [delivered, List.takeWhile_append_of_pos, List.flatMap_append]
  · rfl
  · intro deed hmem
    rw [h deed hmem]
    rfl

theorem delivered_of_goes {deeds : List Deed} (h : Goes deeds) :
  delivered deeds = deeds.flatMap Deed.bytes
  := by
  have happend := delivered_append_of_goes h []
  rw [List.append_nil] at happend
  rw [happend]
  apply List.append_nil _

section

variable (d : Disk) (keys : List Path)

/-- What becomes of a visit that does not count is not seen in the document. -/
theorem Visit.deed_of_not_counts {visit : Visit} (h : visit.counts = false) :
  (visit.deed d keys).stops = false ∧ (visit.deed d keys).bytes = []
  := by
  cases visit with
  | ignored path =>
    constructor
    · rfl
    · rfl
  | unlisted path fault =>
    constructor
    · rfl
    · rfl
  | file path relative context => cases h
  | broken path failure => cases h

/-- The visits that count tell what is delivered, and whether the scan stops. -/
theorem delivered_counting (visits : List Visit) :
  delivered ((counting visits).map (Visit.deed d keys))
      = delivered (visits.map (Visit.deed d keys))
    ∧ (Goes ((counting visits).map (Visit.deed d keys)) ↔ Goes (visits.map (Visit.deed d keys)))
  := by
  induction visits with
  | nil =>
    constructor
    · rfl
    · apply Iff.rfl
  | cons visit visits ih =>
    rw [counting, List.filter_cons]
    cases hcounts : visit.counts with
    | true =>
      rw [if_pos rfl, ← counting]
      simp only [List.map_cons, delivered_cons, goes_cons_iff]
      use by rw [ih.1]
      apply and_congr_right fun _ => ih.2
    | false =>
      obtain ⟨hstops, hbytes⟩ := Visit.deed_of_not_counts d keys hcounts
      simp only [Bool.false_eq_true, if_false, List.map_cons, delivered_cons, goes_cons_iff, hstops,
        hbytes, List.nil_append, true_and]
      apply ih

end

/-! ### What an aggregation writes -/

section

variable {d : Disk} {globalKey : Option Path}

/-- Through a buffer, visits deliver what becomes of them.  Only a deed that stops the scan makes
it fail. -/
theorem Makes.delivers {visits : List Visit} {s : Scan} {x : Action Scan Unit}
    (hx : Makes d visits s x) (hs : Ready d globalKey s) (hk : s.sink.Buffered)
    (hunread : Unread d s.sink s.excluded visits) :
  x.Meets s
    (fun _ s' => Goes (visits.map (Visit.deed d s.excluded))
      ∧ Sink.Took s.sink (delivered (visits.map (Visit.deed d s.excluded))) s'.sink)
    (fun _ s' => ¬ Goes (visits.map (Visit.deed d s.excluded))
      ∧ Sink.Took s.sink (delivered (visits.map (Visit.deed d s.excluded))) s'.sink)
  := by
  apply hx.mono
  · rintro _ s' ⟨deeds, hdeeds, hgoes, hdid⟩
    obtain rfl := eq_map_deed hs.wellFormed hs.openOn hunread hdeeds
    rw [delivered_of_goes hgoes, ← List.append_nil (List.flatMap _ _)]
    constructor
    · apply hgoes
    · apply hdid.sink
  · rintro failure s' ⟨before, visit, after, deeds, deed, torn, rfl, hdeeds, hgoes, hdeed, hstops,
      hdid⟩
    rcases hstops with ⟨⟨cause, rfl⟩, rfl⟩ | ⟨hbound, -⟩
    · have hbefore : Unread d s.sink s.excluded before :=
        fun location ho file relative context hmem =>
          hunread location ho file relative context (List.mem_append_left _ hmem)
      obtain rfl := eq_map_deed hs.wellFormed hs.openOn hbefore hdeeds
      obtain ⟨k', -, hstop⟩ := hdeed
      obtain ⟨path, rfl⟩ := Visit.deed_eq_stop_iff.mp hstop.symm
      rw [List.map_append, List.map_cons, Visit.deed, delivered_append_of_goes hgoes]
      use fun hall => hall cause (by simp)
      apply hdid.sink
    · apply absurd hk.boundless hbound

variable {r : Resolver} {k : Sink} {scope : Scope} {paths : List Path} {excluded : Option Path}

/-- Through a buffer, an aggregation writes the header and what is due on its path arguments.  It
fails exactly if something stops it. -/
theorem meets_aggregate_delivering (hs : Ready d globalKey (start r k)) (hk : k.Buffered)
    (hunread : Unread d k (keysOf d excluded) (argumentsVisits d globalKey scope paths)) :
  (aggregate d scope paths excluded).Meets (start r k)
    (fun _ s' => Goes (dueDeeds d globalKey scope excluded paths)
      ∧ Sink.Took k (Text.bytesOf (Document.header k.generator)
        ++ delivered (dueDeeds d globalKey scope excluded paths)) s'.sink)
    (fun _ s' => ¬ Goes (dueDeeds d globalKey scope excluded paths)
      ∧ Sink.Took k (Text.bytesOf (Document.header k.generator)
        ++ delivered (dueDeeds d globalKey scope excluded paths)) s'.sink)
  := by
  apply meets_aggregate_of hs
  · intro k₁ hk₁
    have hs₁ := hs.begun hk₁ (keysOf d excluded)
    have hunread₁ : Unread d k₁ (keysOf d excluded) (argumentsVisits d globalKey scope paths) :=
      fun location ho => hunread location (hk₁.outlet.symm.trans ho)
    simp only [concluding, Action.meets_bind, Action.meets_state, Action.meets_tell,
      Action.meets_pure]
    apply ((makes_arguments scope paths hs₁).delivers hs₁ (hk.of_outlet hk₁.outlet) hunread₁).mono
    · rintro _ s' ⟨hgoes, htook⟩
      have hwhole := hk₁.trans htook
      apply (meets_finishing s').mono
      · rintro _ s'' ⟨k₂, hk₂, rfl⟩
        have hlast := hwhole.trans hk₂
        rw [List.append_nil] at hlast
        constructor
        · apply hgoes
        · apply hlast
      · rintro failure s'' ⟨⟨limit, ho⟩, -⟩
        apply absurd ho (hk.of_outlet hwhole.outlet limit true)
    · rintro failure s' ⟨hgoes, htook⟩
      use hgoes
      apply hk₁.trans htook
  · intro failure k₁ hbound
    apply absurd hk.boundless hbound

end

/-! ### A new file and the console -/

/-- What a resolver remembers is still on the disk when a file has been made. -/
theorem Grown.current {l : Location} {d d' : Disk} (h : Grown l d d') {r : Resolver}
    (hr : r.Current d) :
  r.Current d'
  := by
  intro entry hentry
  obtain ⟨hkey, hconfig⟩ := hr entry hentry
  obtain ⟨bytes, hbytes, -⟩ := Resolver.configIn_eq_some_iff.mp hconfig
  obtain ⟨m, hm, -⟩ := Disk.read_eq_ok_iff.mp hbytes
  constructor
  · rw [hkey, Resolver.keyOf, Resolver.keyOf, Disk.canonical, Disk.canonical, hm, h.locate hm]
  · rw [← hconfig]
    apply Resolver.configIn_congr (h.read hm)

section

variable {l : Location} {d d' : Disk} (h : Grown l d d') {p : Path}
  (hp : d'.locate .content p = .ok l) {globalKey : Option Path} {scope : Scope}
  {paths : List Path} (haside : ∀ path ∈ paths, LeadsAside l d d' path)

include h hp haside

/-- Of what counted before, the same becomes although the new file is kept out. -/
theorem Grown.deed_eq {visit : Visit}
    (hvisit : visit ∈ counting (argumentsVisits d globalKey scope paths)) :
  visit.deed d' (keysOf d' (some p)) = visit.deed d []
  := by
  cases visit with
  | ignored path => rfl
  | unlisted path fault => rfl
  | broken path failure => rfl
  | file file relative context =>
    obtain ⟨hne, hread⟩ := h.file_of_mem haside (mem_counting_iff.mp hvisit).1
    have hkept : isKeptOut (keysOf d' (some p)) d' file = false := by
      rw [← Bool.not_eq_true, isKeptOut_iff]
      rintro ⟨m, hm, hkey, -⟩
      obtain ⟨p', l', hp', hl', heq⟩ := mem_keysOf_iff.mp hkey
      obtain rfl := Option.some.inj hp'
      obtain rfl := Except.ok.inj (hp.symm.trans hl')
      obtain ⟨-, -, hv⟩ := h.right.exists_of_locate hm
      obtain ⟨-, -, hv'⟩ := h.right.exists_of_locate hp
      obtain rfl := (Disk.pathOf_inj hv' hv).mp heq
      apply hne hm
    rw [Visit.deed, Visit.deed, fileDeed, fileDeed, hkept, hread]
    rfl

/-- What is due on path arguments that lead to what was there before is delivered as before. -/
theorem Grown.delivered_dueDeeds :
  delivered (dueDeeds d' globalKey scope (some p) paths)
      = delivered (dueDeeds d globalKey scope none paths)
    ∧ (Goes (dueDeeds d' globalKey scope (some p) paths)
      ↔ Goes (dueDeeds d globalKey scope none paths))
  := by
  obtain ⟨hdelivered, hgoes⟩ :=
    delivered_counting d [] (argumentsVisits d globalKey scope paths)
  obtain ⟨hdelivered', hgoes'⟩ :=
    delivered_counting d' (keysOf d' (some p)) (argumentsVisits d' globalKey scope paths)
  have hsame : (counting (argumentsVisits d' globalKey scope paths)).map
        (Visit.deed d' (keysOf d' (some p)))
      = (counting (argumentsVisits d globalKey scope paths)).map (Visit.deed d []) := by
    rw [h.counting_argumentsVisits haside]
    apply List.map_congr_left fun visit hvisit => h.deed_eq hp haside hvisit
  rw [hsame] at hdelivered' hgoes'
  use hdelivered'.symm.trans hdelivered
  apply hgoes'.symm.trans hgoes

omit hp in
/-- The new file is not among those that are visited. -/
theorem Grown.unread {k : Sink} (hk : k.outlet = .file l) (keys : List Path) :
  Unread d' k keys (argumentsVisits d' globalKey scope paths)
  := by
  intro location ho file relative context hvisit hlocate
  obtain rfl : l = location := by simpa [hk] using ho
  have hcounts := mem_counting_iff.mpr ⟨hvisit, rfl⟩
  rw [h.counting_argumentsVisits haside] at hcounts
  apply absurd hlocate (h.file_of_mem haside (mem_counting_iff.mp hcounts).1).1

end

end Scan

end Compendium
