import Mathlib.Data.List.Basic
import Compendium.Rule

/-!
# What a rule keeps

A rule goes through lines one by one, and all it knows of those it has seen is whether a range
is open.  `keeps` and `opensAfter` say what it does at one line.  What it keeps of lines is a
sublist of them, and of lines with more behind them it keeps what it keeps of the lines alone,
and then what it keeps of the rest.
-/

namespace Compendium

theorem EndOfRange.isSameLine_iff {e : EndOfRange} :
  e.isSameLine = true ↔ e = .sameLine
  := by
  cases e <;> simp [isSameLine]

namespace Rule

variable {r : Rule} {inRange : Bool} {lines : List String}

/-! ### One line -/

/-- Whether the rule keeps a line: none inside a range, and one that opens a range only if the
rule is to keep it and the range goes on behind it. -/
def keeps (r : Rule) (inRange : Bool) (line : String) : Bool :=
  !inRange && (!r.start.occursIn line || (r.keepStart && !r.finish.isSameLine))

/-- Whether a range is open behind a line. -/
def opensAfter (r : Rule) (inRange : Bool) (line : String) : Bool :=
  if inRange then !r.finish.closes line else r.start.occursIn line && !r.finish.isSameLine

/-- What the rule does with a line and with those behind it. -/
theorem run_cons (r : Rule) (inRange : Bool) (line : String) (rest : List String) :
  r.run inRange (line :: rest)
    = ((if r.keeps inRange line then [line] else []) ++ (r.run (r.opensAfter inRange line) rest).1,
      (r.run (r.opensAfter inRange line) rest).2)
  := by
  rw [run]
  cases inRange
  · cases hs : r.start.occursIn line <;> cases hf : r.finish.isSameLine <;>
      cases hk : r.keepStart <;> simp [keeps, opensAfter, hs, hf, hk]
  · simp [keeps, opensAfter]

/-- A kept line starts no range, unless the rule keeps the lines at which ranges start. -/
theorem start_of_keeps {line : String} (h : r.keeps inRange line = true)
    (hr : r.keepStart = false ∨ r.finish.isSameLine = true) :
  r.start.occursIn line = false
  := by
  rcases hr with hr | hr <;> simp_all [keeps]

/-! ### All lines -/

/-- The rule keeps lines as they are and in their order. -/
theorem sublist_run (r : Rule) (inRange : Bool) (lines : List String) :
  (r.run inRange lines).1.Sublist lines
  := by
  induction lines generalizing inRange with
  | nil => rw [run]
  | cons line rest ih =>
    rw [run_cons]
    cases r.keeps inRange line
    · apply (ih _).cons line
    · apply (ih _).cons_cons line

/-- The rule goes through more lines from where the lines before them have left it. -/
theorem run_append (r : Rule) (inRange : Bool) (lines more : List String) :
  r.run inRange (lines ++ more)
    = ((r.run inRange lines).1 ++ (r.run (r.run inRange lines).2 more).1,
      (r.run (r.run inRange lines).2 more).2)
  := by
  induction lines generalizing inRange with
  | nil => simp [run]
  | cons line rest ih => simp [run_cons, ih]

/-- Lines that start no range are all kept. -/
theorem run_of_not_start (h : ∀ line ∈ lines, r.start.occursIn line = false) :
  r.run false lines = (lines, false)
  := by
  induction lines with
  | nil => rw [run]
  | cons line rest ih =>
    rw [List.forall_mem_cons] at h
    simp [run_cons, keeps, opensAfter, h.1, ih h.2]

/-- Lines that do not close the range they are in all go. -/
theorem run_of_not_closes (h : ∀ line ∈ lines, r.finish.closes line = false) :
  r.run true lines = ([], true)
  := by
  induction lines with
  | nil => rw [run]
  | cons line rest ih =>
    rw [List.forall_mem_cons] at h
    simp [run_cons, keeps, opensAfter, h.1, ih h.2]

/-- No kept line starts a range, unless the rule keeps the lines at which ranges start. -/
theorem start_of_mem_run (hr : r.keepStart = false ∨ r.finish.isSameLine = true) {line : String}
    (h : line ∈ (r.run inRange lines).1) :
  r.start.occursIn line = false
  := by
  induction lines generalizing inRange with
  | nil => simp [run] at h
  | cons first rest ih =>
    rw [run_cons, List.mem_append] at h
    rcases h with h | h
    · split at h
      · rename_i hkeeps
        obtain rfl := List.mem_singleton.mp h
        apply start_of_keeps hkeeps hr
      · simp at h
    · apply ih h

/-- A rule whose ranges are of one line keeps the lines that start none, and is never inside a
range behind a line. -/
theorem run_of_sameLine (hr : r.finish.isSameLine = true) (lines : List String) :
  r.run false lines = (lines.filter fun line => !r.start.occursIn line, false)
  := by
  induction lines with
  | nil => rw [run, List.filter_nil]
  | cons line rest ih =>
    cases hs : r.start.occursIn line <;> simp [run_cons, keeps, opensAfter, hr, hs, ih]

/-! ### A whole file -/

theorem sublist_apply (r : Rule) (lines : List String) :
  (r.apply lines).Sublist lines
  := sublist_run r false lines

/-- More lines at the end leave what is kept of those before them as it is. -/
theorem apply_append (r : Rule) (lines more : List String) :
  r.apply (lines ++ more) = r.apply lines ++ (r.run (r.leavesOpen lines) more).1
  := by
  rw [apply, run_append]
  rfl

/-- A rule has nothing to do where no line starts a range. -/
theorem apply_eq_self (h : ∀ line ∈ lines, r.start.occursIn line = false) :
  r.apply lines = lines
  := by
  rw [apply, run_of_not_start h]

theorem apply_of_sameLine (hr : r.finish.isSameLine = true) (lines : List String) :
  r.apply lines = lines.filter fun line => !r.start.occursIn line
  := by
  rw [apply, run_of_sameLine hr]

end Rule

end Compendium
