import Mathlib.Data.List.Forall2
import Compendium.Proofs.Scan.Milder
import Compendium.Proofs.Scan.Order
import Compendium.Proofs.Scan.Selection

/-!
# Path arguments

A document that does not go to the disk leaves the disk as it is.  What becomes of a visit is
then a function of the disk, and what a resolver remembers from earlier visits makes no
difference to it.  So each path argument has deeds of its own, whatever comes before it.
-/

namespace Compendium.Scan

/-- The deeds that are due on path arguments, on a disk that stays as it is. -/
def dueDeeds (d : Disk) (globalKey : Option Path) (scope : Scope) (excluded : Option Path)
    (paths : List Path) : List Deed :=
  (argumentsVisits d globalKey scope paths).map (Visit.deed d (keysOf d excluded))

/-- The deeds of some paths are followed by those of others. -/
theorem dueDeeds_append (d : Disk) (globalKey : Option Path) (scope : Scope)
    (excluded : Option Path) (paths paths' : List Path) :
  dueDeeds d globalKey scope excluded (paths ++ paths')
    = dueDeeds d globalKey scope excluded paths ++ dueDeeds d globalKey scope excluded paths'
  := by
  rw [dueDeeds, dueDeeds, dueDeeds, argumentsVisits, List.flatMap_append, List.map_append]
  rfl

theorem goes_append {deeds deeds' : List Deed} :
  Goes (deeds ++ deeds') ↔ Goes deeds ∧ Goes deeds'
  := by
  simp only [Goes, List.mem_append, not_or, forall_and]

/-- What is due goes on to its end where no configuration is broken. -/
theorem goes_dueDeeds_iff {d : Disk} {globalKey : Option Path} {scope : Scope}
    {excluded : Option Path} {paths : List Path} :
  Goes (dueDeeds d globalKey scope excluded paths)
    ↔ ∀ path failure, .broken path failure ∉ argumentsVisits d globalKey scope paths
  := by
  constructor
  · intro hgoes path failure hmem
    apply hgoes failure
    apply List.mem_map.mpr ⟨_, hmem, rfl⟩
  · intro hfree failure hmem
    obtain ⟨visit, hvisit, hdeed⟩ := List.mem_map.mp hmem
    obtain ⟨path, rfl⟩ := Visit.deed_eq_stop_iff.mp hdeed
    apply hfree path failure hvisit

/-- On a disk that stays as it is, a visit becomes one deed only. -/
theorem becomes_offDisk {d : Disk} {k : Sink} (hk : k.OffDisk) (keys : List Path) :
  Becomes d k keys = fun visit deed => visit.deed d keys = deed
  := by
  funext visit deed
  apply propext
  constructor
  · rintro ⟨k', hk', rfl⟩
    rw [(hk.of_outlet hk').seenDisk_eq]
  · rintro rfl
    use k, rfl, by rw [hk.seenDisk_eq]

section

variable {d : Disk} {globalKey : Option Path} {r : Resolver} {k : Sink}
  (hs : Ready d globalKey (start r k)) (hk : k.Unlimited) {scope : Scope} {paths : List Path}
  {excluded : Option Path}

include hs hk

/-- An aggregation succeeds if what is due goes on to its end. -/
theorem aggregate_succeeds_iff :
  (∃ report, (aggregate d scope paths excluded (start r k)).result = .ok report)
    ↔ Goes (dueDeeds d globalKey scope excluded paths)
  := by
  rw [goes_dueDeeds_iff]
  constructor
  · rintro ⟨report, hok⟩ path failure hmem
    obtain ⟨-, deeds, hdone⟩ := (meets_aggregate hs scope paths excluded).of_ok hok
    obtain ⟨deed, hdeed, k', -, rfl⟩ := exists_deed hdone.becomes hmem
    apply hdone.goes failure hdeed
  · apply aggregate_succeeds hs scope paths excluded hk.boundless hk.flushes

/-- An aggregation that succeeds has done what is due, and nothing else. -/
theorem aggregated_dueDeeds {report : Report}
    (hok : (aggregate d scope paths excluded (start r k)).result = .ok report) :
  report = (aggregate d scope paths excluded (start r k)).state.report
    ∧ Aggregated d globalKey scope paths excluded (start r k)
      (dueDeeds d globalKey scope excluded paths)
      (aggregate d scope paths excluded (start r k)).state
  := by
  obtain ⟨hreport, deeds, hdone⟩ := (meets_aggregate hs scope paths excluded).of_ok hok
  have hdeeds : List.Forall₂ (Becomes d k (keysOf d excluded))
      (argumentsVisits d globalKey scope paths) deeds := hdone.becomes
  rw [becomes_offDisk hk.offDisk, ← List.forall₂_map_left_iff, List.forall₂_eq_eq_eq] at hdeeds
  obtain rfl : dueDeeds d globalKey scope excluded paths = deeds := hdeeds
  constructor
  · apply hreport
  · apply hdone

end

/-! ### Independence -/

/-- Path arguments are independent while the disk stays as it is.  An aggregation of two lists of
paths succeeds if those of each list do, with the same resolver, and then its report and its
document are made up of theirs. -/
theorem aggregate_append {d : Disk} {searchDirs : List Path} {r : Resolver}
    {selection : Option Resolver.Selection} {k : Sink} (hd : d.WellFormed)
    (hr : Reached d searchDirs r selection) (hk : k.Unlimited) (scope : Scope)
    (excluded : Option Path) (paths paths' : List Path) :
  ((∃ report, (aggregate d scope (paths ++ paths') excluded (start r k)).result = .ok report)
      ↔ (∃ report, (aggregate d scope paths excluded (start r k)).result = .ok report)
        ∧ ∃ report, (aggregate d scope paths' excluded (start r k)).result = .ok report)
    ∧ ∀ report report' whole,
      (aggregate d scope paths excluded (start r k)).result = .ok report →
      (aggregate d scope paths' excluded (start r k)).result = .ok report' →
      (aggregate d scope (paths ++ paths') excluded (start r k)).result = .ok whole →
      whole.included = report.included ++ report'.included
        ∧ whole.skipped = report.skipped ++ report'.skipped
        ∧ whole.failures = report.failures ++ report'.failures
        ∧ ∃ placed placed',
          Composed k report (aggregate d scope paths excluded (start r k)).state.sink.written
              placed
            ∧ Composed k report'
              (aggregate d scope paths' excluded (start r k)).state.sink.written placed'
            ∧ Composed k whole
              (aggregate d scope (paths ++ paths') excluded (start r k)).state.sink.written
              (placed ++ placed')
  := by
  have hs : Ready d r.globalKey (start r k) :=
    ready_start hd ((hr.sound hd).1.faithful hd) hk.offDisk
  constructor
  · rw [aggregate_succeeds_iff hs hk, aggregate_succeeds_iff hs hk, aggregate_succeeds_iff hs hk,
      dueDeeds_append, goes_append]
  · intro report report' whole hok hok' hwhole
    obtain ⟨rfl, hdone⟩ := aggregated_dueDeeds hs hk hok
    obtain ⟨rfl, hdone'⟩ := aggregated_dueDeeds hs hk hok'
    obtain ⟨rfl, hdone''⟩ := aggregated_dueDeeds hs hk hwhole
    have hfirst := hdone.composed
    have hsecond := hdone'.composed
    have hboth := hdone''.composed
    rw [dueDeeds_append] at hdone'' hboth
    rw [List.filterMap_append] at hboth
    refine ⟨?_, ?_, ?_, _, _, hfirst, hsecond, hboth⟩
    · rw [hdone.report, hdone'.report, hdone''.report]
      simp [included_foldl_record, start, Report.empty]
    · rw [hdone.report, hdone'.report, hdone''.report]
      simp [skipped_foldl_record, start, Report.empty]
    · rw [hdone.report, hdone'.report, hdone''.report]
      simp [failures_foldl_record, start, Report.empty]

/-- An aggregation that is given a directory twice succeeds, and has all its files twice in the
document. -/
theorem aggregate_append_sample :
  ∃ report whole,
    (aggregate sampleDisk .empty [⟨"."⟩] none inMemory).result = .ok report
    ∧ (aggregate sampleDisk .empty ([⟨"."⟩] ++ [⟨"."⟩]) none inMemory).result = .ok whole
    ∧ whole.included = report.included ++ report.included
  := by
  obtain ⟨report, hok⟩ := sampleAggregate_succeeds .empty (by decide)
  have hfresh : Reached sampleDisk [] (.empty []) none := .fresh
  obtain ⟨hboth, hwhole⟩ := aggregate_append sampleDisk_wellFormed hfresh
    (Sink.unlimited_empty_memory ⟨"out.md"⟩ "maid") .empty none [⟨"."⟩] [⟨"."⟩]
  obtain ⟨whole, hok'⟩ := hboth.mpr ⟨⟨report, hok⟩, report, hok⟩
  use report, whole, hok, hok'
  apply (hwhole report report whole hok hok hok').1

end Compendium.Scan
