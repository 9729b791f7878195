import Compendium.Proofs.Rule.Ranges

/-!
# Rules that keep the lines at which their ranges start

Whether a rule keeps these lines has no part in where its ranges are: with and without it the
rule is inside a range behind the same lines.  So all that it adds to what is left are the lines
at which the ranges start, one for each range, and nothing if the ranges are of one line.
-/

namespace Compendium.Rule

variable {r : Rule} {lines : List String} {start : Nat} {range : LineRange}
  {ranges : List LineRange}

/-- The rule with the same ranges that keeps the lines at which they start, or does not. -/
def keeping (r : Rule) (keepStart : Bool) : Rule := { r with keepStart }

/-! ### The lines that are left -/

/-- Of the lines that are kept by the rule that keeps those at which ranges start, the other rule
keeps those that start none. -/
theorem keeps_keeping (r : Rule) (inRange : Bool) (line : String) :
  (r.keeping false).keeps inRange line
    = ((r.keeping true).keeps inRange line && !r.start.occursIn line)
  := by
  cases hs : r.start.occursIn line <;> simp [keeps, keeping, hs]

/-- Both rules are inside a range behind the same lines. -/
theorem run_keeping_snd (r : Rule) (keepStart inRange : Bool) (lines : List String) :
  ((r.keeping keepStart).run inRange lines).2 = (r.run inRange lines).2
  := by
  induction lines generalizing inRange with
  | nil => simp [run]
  | cons line rest ih =>
    rw [run_cons, run_cons]
    apply ih (r.opensAfter inRange line)

/-- What the rule leaves that keeps the lines at which ranges start becomes what the other leaves,
when the lines that match the start are taken out. -/
theorem filter_run_keeping (r : Rule) (inRange : Bool) (lines : List String) :
  (((r.keeping true).run inRange lines).1.filter fun line => !r.start.occursIn line)
    = ((r.keeping false).run inRange lines).1
  := by
  induction lines generalizing inRange with
  | nil => simp [run]
  | cons line rest ih =>
    have hrest := ih (r.opensAfter inRange line)
    rw [run_cons, run_cons, keeps_keeping, List.filter_append]
    refine congrArg₂ (· ++ ·) ?_ hrest
    cases (r.keeping true).keeps inRange line <;> cases hs : r.start.occursIn line <;> simp [hs]

/-! ### The ranges -/

/-- The ranges do not depend on whether the lines at which they start are kept. -/
theorem Ranges.for_keeping (h : r.Ranges lines start ranges) (keepStart : Bool) :
  (r.keeping keepStart).Ranges lines start ranges
  :=
  h.congr rfl fun i line line' _ hline hline' => by
    obtain rfl := Option.some.inj (hline.symm.trans hline')
    split <;> rfl

theorem ranges_keeping_iff (r : Rule) (keepStart : Bool) :
  (r.keeping keepStart).Ranges lines start ranges ↔ r.Ranges lines start ranges
  := by
  constructor
  · intro h
    apply h.for_keeping r.keepStart
  · intro h
    apply h.for_keeping keepStart

/-- How many lines are left when the next range is removed. -/
theorem Removes.length_run (h : r.Removes lines start range) (hr : r.finish.isSameLine = false) :
  (r.run false (lines.drop start)).1.length
    = (range.first - start) + (if r.keepStart then 1 else 0)
      + (r.run false (lines.drop (range.last + 1))).1.length
  := by
  obtain ⟨before, line, inside, -, hbefore, -, hrun⟩ := h.run_eq hr
  rw [hrun, ← hbefore]
  simp only [List.length_append, apply_ite List.length, List.length_singleton, List.length_nil]
  omega

/-- For each range one line more is left if the lines at which ranges start are kept. -/
theorem Ranges.length_run_keeping (h : r.Ranges lines start ranges)
    (hr : r.finish.isSameLine = false) :
  ((r.keeping true).run false (lines.drop start)).1.length
    = ((r.keeping false).run false (lines.drop start)).1.length + ranges.length
  := by
  induction h with
  | none hnone =>
    have hlines := hnone.forall_mem_drop
    rw [run_of_not_start (r := r.keeping true) hlines,
      run_of_not_start (r := r.keeping false) hlines]
    rfl
  | @more start range rest h hrest ih =>
    have hkept : (r.keeping true).Removes lines start range := ⟨h.opens, h.ends⟩
    have hleft : (r.keeping false).Removes lines start range := ⟨h.opens, h.ends⟩
    rw [hkept.length_run hr, hleft.length_run hr, ih, List.length_cons]
    simp only [keeping, if_true, Bool.false_eq_true, if_false]
    omega

/-- Two rules that differ in nothing but whether they keep the lines at which their ranges start
leave the same but for lines that match the start, and are inside a range behind the same lines.
If ranges may go on behind their first lines, both rules have the same ranges, and one of them
leaves one line more for each; if not, they leave the same lines. -/
theorem apply_keeping (r : Rule) (lines : List String) :
  (((r.keeping true).apply lines).filter fun line => !r.start.occursIn line)
      = (r.keeping false).apply lines
    ∧ (r.keeping true).leavesOpen lines = (r.keeping false).leavesOpen lines
    ∧ (r.finish ≠ .sameLine → ∃ ranges,
      (∀ keepStart others, (r.keeping keepStart).Ranges lines 0 others ↔ others = ranges)
        ∧ ((r.keeping true).apply lines).length
          = ((r.keeping false).apply lines).length + ranges.length)
    ∧ (r.finish = .sameLine → (r.keeping true).apply lines = (r.keeping false).apply lines)
  := by
  refine ⟨filter_run_keeping r false lines, ?_, ?_, ?_⟩
  · apply (run_keeping_snd r true false lines).trans (run_keeping_snd r false false lines).symm
  · intro hfinish
    rw [ne_eq, ← EndOfRange.isSameLine_iff, Bool.not_eq_true] at hfinish
    obtain ⟨ranges, h⟩ := exists_ranges r lines 0
    use ranges
    constructor
    · intro keepStart others
      rw [ranges_keeping_iff]
      constructor
      · intro hothers
        apply hothers.unique h
      · rintro rfl
        apply h
    · apply h.length_run_keeping hfinish
  · intro hfinish
    have hsame := EndOfRange.isSameLine_iff.mpr hfinish
    rw [apply_of_sameLine (r := r.keeping true) hsame,
      apply_of_sameLine (r := r.keeping false) hsame]
    rfl

/-- A range in which another line matches the start, one right behind it and one that no line
closes; and the same lines for a rule whose ranges are of one line. -/
theorem apply_keeping_begin_end :
  ∃ r single, compile ⟨"*", none, "BEGIN", "END", true⟩ = .ok r ∧ r.finish ≠ .sameLine
    ∧ compile ⟨"*", none, "BEGIN", "::line::", true⟩ = .ok single ∧ single.finish = .sameLine
    ∧ r.Ranges ["a", "BEGIN", "BEGIN", "END", "BEGIN", "END", "b", "BEGIN", "c"] 0
      [⟨1, 3⟩, ⟨4, 5⟩, ⟨7, 8⟩]
    ∧ (r.keeping true).apply ["a", "BEGIN", "BEGIN", "END", "BEGIN", "END", "b", "BEGIN", "c"]
      = ["a", "BEGIN", "BEGIN", "b", "BEGIN"]
    ∧ (r.keeping false).apply ["a", "BEGIN", "BEGIN", "END", "BEGIN", "END", "b", "BEGIN", "c"]
      = ["a", "b"]
    ∧ ["a", "BEGIN", "BEGIN", "b", "BEGIN"].length = ["a", "b"].length + 3
    ∧ (single.keeping true).apply ["a", "BEGIN", "END"]
      = (single.keeping false).apply ["a", "BEGIN", "END"]
  := by
  have hsample : ∃ r ∈ (compile ⟨"*", none, "BEGIN", "END", true⟩).toOption,
      r.finish.isSameLine = false
        ∧ r.Ranges ["a", "BEGIN", "BEGIN", "END", "BEGIN", "END", "b", "BEGIN", "c"] 0
          [⟨1, 3⟩, ⟨4, 5⟩, ⟨7, 8⟩]
        ∧ (r.keeping true).apply
            ["a", "BEGIN", "BEGIN", "END", "BEGIN", "END", "b", "BEGIN", "c"]
          = ["a", "BEGIN", "BEGIN", "b", "BEGIN"]
        ∧ (["a", "BEGIN", "BEGIN", "b", "BEGIN"].filter fun line => !r.start.occursIn line)
          = ["a", "b"] := by
    decide +kernel
  have hsingle : ∃ single ∈ (compile ⟨"*", none, "BEGIN", "::line::", true⟩).toOption,
      single.finish.isSameLine = true := by
    decide +kernel
  obtain ⟨r, hr, hfinish, hranges, hkept, hfilter⟩ := hsample
  obtain ⟨single, hsingle, hline⟩ := hsingle
  have hlong : r.finish ≠ .sameLine := by
    rw [ne_eq, ← EndOfRange.isSameLine_iff, hfinish]
    apply Bool.false_ne_true
  obtain ⟨hleft, -, hcount, -⟩ := apply_keeping r
    ["a", "BEGIN", "BEGIN", "END", "BEGIN", "END", "b", "BEGIN", "c"]
  rw [hkept, hfilter] at hleft
  obtain ⟨ranges, hunique, hlength⟩ := hcount hlong
  obtain rfl := (hunique r.keepStart _).mp hranges
  rw [hkept, ← hleft] at hlength
  have hshort := (apply_keeping single ["a", "BEGIN", "END"]).2.2.2
    (EndOfRange.isSameLine_iff.mp hline)
  use r, single, toOption_eq_some_iff.mp hr, hlong, toOption_eq_some_iff.mp hsingle,
    EndOfRange.isSameLine_iff.mp hline, hranges, hkept, hleft.symm, hlength, hshort

end Compendium.Rule
