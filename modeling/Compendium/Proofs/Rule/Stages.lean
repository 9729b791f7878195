import Mathlib.Data.List.Perm.Basic
import Mathlib.Data.Nat.PSub
import Compendium.Proofs.Rule.Chain

/-!
# What the rules of a chain remove

Each of the rules that are for a file is a stage, with the lines it is given and the lines it
keeps.  What the stages remove, counted one by one, is what is missing in the end, and no stage
keeps more lines than it is given.  Rules whose ranges are of one line remove the lines that
match the start of any of them, in whatever order they run.
-/

namespace Compendium.RuleSet

variable {path : Path} {rules : List Rule} {lines : List String}

/-! ### Stages -/

/-- The number of lines that a stage removes, if there is one: a count may not be subtracted
from a smaller one. -/
def removedAt? : Rule × List String × List String → Option Nat
  | (_, given, kept) => Nat.psub given.length kept.length

/-- A stage runs its rule on what the rules before it have left. -/
theorem getElem?_stages (rules : List Rule) (lines : List String) (i : Nat) :
  (stages rules lines)[i]? = rules[i]?.map fun rule =>
    (rule, applyAll (rules.take i) lines, rule.apply (applyAll (rules.take i) lines))
  := by
  induction rules generalizing lines i with
  | nil => rfl
  | cons rule rest ih =>
    cases i with
    | zero => rfl
    | succ i => apply ih (rule.apply lines) i

/-- Every stage removes some number of lines, and together they remove those that are missing in
the end. -/
theorem exists_counts (rules : List Rule) (lines : List String) :
  ∃ counts, (stages rules lines).mapM removedAt? = some counts
    ∧ (applyAll rules lines).length + counts.foldr (· + ·) 0 = lines.length
  := by
  induction rules generalizing lines with
  | nil => exact ⟨[], rfl, rfl⟩
  | cons rule rest ih =>
    obtain ⟨counts, hcounts, hsum⟩ := ih (rule.apply lines)
    obtain ⟨count, hcount⟩ := Nat.exists_eq_add_of_le (rule.sublist_apply lines).length_le
    use count :: counts
    constructor
    · have hremoved : removedAt? (rule, lines, rule.apply lines) = some count :=
        Nat.psub_eq_some.mpr (by omega)
      simp [stages, hremoved, hcounts]
    · rw [applyAll_cons, List.foldr_cons]
      omega

/-- What is left of a file are lines of it in their order, and with the removed ones they are as
many as before.  At every stage and in the end the counts can be subtracted.  The names are those
of the rules for the file in the order of the set, each of which ran on what those before it had
left, whether it then removed anything or not. -/
theorem filter_accounts (s : RuleSet) (path : Path) (lines : List String) :
  (s.filter path lines).lines.Sublist lines
    ∧ (s.filter path lines).lines.length + (s.filter path lines).removed = lines.length
    ∧ Nat.psub lines.length (s.filter path lines).lines.length
      = some (s.filter path lines).removed
    ∧ (∃ counts, (stages (s.applicable path) lines).mapM removedAt? = some counts
      ∧ counts.foldr (· + ·) 0 = (s.filter path lines).removed)
    ∧ (s.filter path lines).applied = (s.rules.filter (·.isFor path)).map (·.name)
    ∧ (∀ i, (stages (s.applicable path) lines)[i]?
      = (s.rules.filter (·.isFor path))[i]?.map fun rule =>
        (rule, applyAll ((s.rules.filter (·.isFor path)).take i) lines,
          rule.apply (applyAll ((s.rules.filter (·.isFor path)).take i) lines)))
    ∧ (s.filter path lines).lines = applyAll (s.rules.filter (·.isFor path)) lines
  := by
  obtain ⟨counts, hcounts, hsum⟩ := exists_counts (s.applicable path) lines
  have hsublist := sublist_applyAll (s.applicable path) lines
  have hremoved : (s.filter path lines).lines.length + (s.filter path lines).removed
      = lines.length := Nat.add_sub_cancel' hsublist.length_le
  refine ⟨hsublist, hremoved, ?_, ⟨counts, hcounts, ?_⟩, rfl, getElem?_stages _ lines, rfl⟩
  · rw [Nat.psub_eq_some, Nat.add_comm]
    apply hremoved
  · apply Nat.add_left_cancel (hsum.trans hremoved.symm)

/-- A rule that finds nothing to remove is named like the others. -/
example :
  ∃ s ∈ (ofSpecs [⟨"*", some "styles", "<style>", "</style>", false⟩,
      ⟨"*.css", some "other", ".", "::line::", false⟩,
      ⟨"*", some "idle", "^x$", "::line::", false⟩] "maid.json").toOption,
    s.filter ⟨"a.html"⟩ ["a", "<style>", "b", "</style>"] = ⟨["a"], 3, ["styles", "idle"]⟩
  := by decide +kernel

/-! ### Rules of one line -/

/-- Rules whose ranges are of one line leave the lines that match the start of none of them. -/
theorem applyAll_of_sameLine (h : ∀ rule ∈ rules, rule.finish.isSameLine = true)
    (lines : List String) :
  applyAll rules lines = lines.filter fun line => !rules.any (·.start.occursIn line)
  := by
  induction rules generalizing lines with
  | nil => simp [applyAll]
  | cons rule rest ih =>
    rw [List.forall_mem_cons] at h
    rw [applyAll_cons, Rule.apply_of_sameLine h.1, ih h.2, List.filter_filter]
    apply List.filter_congr
    intro line _
    rw [List.any_cons, Bool.not_or, Bool.and_comm]

/-- If the ranges of all rules for a file are of one line, the lines are left that match the start
of none of these rules, and neither the lines nor their number depend on the order of the
rules. -/
theorem filter_sameLine (s : RuleSet) (path : Path)
    (h : ∀ rule ∈ s.rules, rule.isFor path = true → rule.finish = .sameLine)
    (lines : List String) :
  (s.filter path lines).lines
      = (lines.filter fun line => !(s.applicable path).any (·.start.occursIn line))
    ∧ ∀ rules : List Rule, rules.Perm s.rules →
      ((⟨rules⟩ : RuleSet).filter path lines).lines = (s.filter path lines).lines
        ∧ ((⟨rules⟩ : RuleSet).filter path lines).removed = (s.filter path lines).removed
  := by
  have hleft : ∀ rules : List Rule, rules.Perm s.rules →
      ((⟨rules⟩ : RuleSet).filter path lines).lines
        = lines.filter fun line => !(s.applicable path).any (·.start.occursIn line) := by
    intro rules hrules
    have happlicable : (rules.filter (·.isFor path)).Perm (s.applicable path) :=
      hrules.filter _
    have hsame : ∀ rule ∈ rules.filter (·.isFor path), rule.finish.isSameLine = true := by
      intro rule hrule
      obtain ⟨hmem, hfor⟩ := List.mem_filter.mp (happlicable.mem_iff.mp hrule)
      apply EndOfRange.isSameLine_iff.mpr (h rule hmem hfor)
    refine (applyAll_of_sameLine hsame lines).trans ?_
    simp only [happlicable.any_eq]
  have hown := hleft s.rules (.refl _)
  use hown
  intro rules hrules
  have hlines := (hleft rules hrules).trans hown.symm
  use hlines
  apply congrArg (fun left => lines.length - left.length) hlines

/-- Two rules for comments, of which one is told to keep the lines at which its ranges start, and
between them one with longer ranges for other files: in either order they leave the same. -/
theorem filter_sameLine_comments :
  ∃ s, ofSpecs [⟨"*.rs", none, "//", "::line::", true⟩,
      ⟨"*.md", none, "^$", "::empty::", false⟩,
      ⟨"*", none, "#", "::line::", false⟩] "maid.json" = .ok s
    ∧ (∀ rule ∈ s.rules, rule.isFor ⟨"a.rs"⟩ = true → rule.finish = .sameLine)
    ∧ s.filter ⟨"a.rs"⟩ ["// a", "# b", "", "c"] = ⟨["", "c"], 2, ["*.rs", "*"]⟩
    ∧ ((⟨s.rules.reverse⟩ : RuleSet).filter ⟨"a.rs"⟩ ["// a", "# b", "", "c"]).lines = ["", "c"]
    ∧ ((⟨s.rules.reverse⟩ : RuleSet).filter ⟨"a.rs"⟩ ["// a", "# b", "", "c"]).removed = 2
  := by
  have hsample : ∃ s ∈ (ofSpecs [⟨"*.rs", none, "//", "::line::", true⟩,
        ⟨"*.md", none, "^$", "::empty::", false⟩,
        ⟨"*", none, "#", "::line::", false⟩] "maid.json").toOption,
      (∀ rule ∈ s.rules, rule.isFor ⟨"a.rs"⟩ = true → rule.finish.isSameLine = true)
        ∧ s.filter ⟨"a.rs"⟩ ["// a", "# b", "", "c"] = ⟨["", "c"], 2, ["*.rs", "*"]⟩ := by
    decide +kernel
  obtain ⟨s, hs, hsame, hfilter⟩ := hsample
  have hrules : ∀ rule ∈ s.rules, rule.isFor ⟨"a.rs"⟩ = true → rule.finish = .sameLine :=
    fun rule hmem hfor => EndOfRange.isSameLine_iff.mp (hsame rule hmem hfor)
  obtain ⟨hlines, hremoved⟩ := (filter_sameLine s ⟨"a.rs"⟩ hrules
    ["// a", "# b", "", "c"]).2 s.rules.reverse s.rules.reverse_perm
  rw [hfilter] at hlines hremoved
  use s, toOption_eq_some_iff.mp hs, hrules, hfilter, hlines, hremoved

end Compendium.RuleSet
