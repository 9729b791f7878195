import Compendium.Proofs.Except
import Compendium.Proofs.Rule.Run
import Compendium.Proofs.Text.Pieces
import Compendium.Rule.Set

/-!
# Rules one after the other

The rules that are for a file run one after the other, each on what the one before it has kept.
What is left are lines of the file in their order.  More lines at the end of the file bring at
most lines of theirs to the end of what is left.  Where no rule keeps the lines at which its
ranges start, none of the rules finds anything in what is left.
-/

namespace Compendium.RuleSet

variable {path : Path} {rules : List Rule} {lines : List String}

/-! ### The lines that are left -/

theorem applyAll_cons (rule : Rule) (rules : List Rule) (lines : List String) :
  applyAll (rule :: rules) lines = applyAll rules (rule.apply lines)
  := rfl

theorem applyAll_append (rules more : List Rule) (lines : List String) :
  applyAll (rules ++ more) lines = applyAll more (applyAll rules lines)
  := List.foldl_append

/-- Lines are left as they are and in their order. -/
theorem sublist_applyAll (rules : List Rule) (lines : List String) :
  (applyAll rules lines).Sublist lines
  := by
  induction rules generalizing lines with
  | nil => apply List.Sublist.refl
  | cons rule rest ih => apply (ih (rule.apply lines)).trans (rule.sublist_apply lines)

/-- All lines are left if none of them starts a range of any rule. -/
theorem applyAll_eq_self
    (h : ∀ rule ∈ rules, ∀ line ∈ lines, rule.start.occursIn line = false) :
  applyAll rules lines = lines
  := by
  induction rules with
  | nil => rfl
  | cons rule rest ih =>
    rw [List.forall_mem_cons] at h
    rw [applyAll_cons, Rule.apply_eq_self h.1, ih h.2]

/-- No line that is left starts a range of any of the rules, unless one keeps the lines at which
its ranges start. -/
theorem start_of_mem_applyAll
    (hrules : ∀ rule ∈ rules, rule.keepStart = false ∨ rule.finish.isSameLine = true) :
  ∀ rule ∈ rules, ∀ line ∈ applyAll rules lines, rule.start.occursIn line = false
  := by
  induction rules generalizing lines with
  | nil => simp
  | cons first rest ih =>
    rw [List.forall_mem_cons] at hrules
    rw [List.forall_mem_cons, applyAll_cons]
    use fun line hline => Rule.start_of_mem_run hrules.1 ((sublist_applyAll rest _).subset hline)
    apply ih hrules.2

/-- More lines bring at most some of them to the end of what is left. -/
theorem exists_applyAll_append (rules : List Rule) (lines more : List String) :
  ∃ added, added.Sublist more ∧ applyAll rules (lines ++ more) = applyAll rules lines ++ added
  := by
  induction rules generalizing lines more with
  | nil => exact ⟨more, .refl more, rfl⟩
  | cons rule rest ih =>
    -- What the rule keeps of `more` depends on whether it comes to them inside a range.
    obtain ⟨added, hadded, hrest⟩ :=
      ih (rule.apply lines) (rule.run (rule.leavesOpen lines) more).1
    use added, hadded.trans (rule.sublist_run _ more)
    rw [applyAll_cons, Rule.apply_append, hrest, applyAll_cons]

/-! ### What is left of a file -/

/-- Nothing is removed where no line starts a range. -/
theorem filter_eq_self {s : RuleSet}
    (h : ∀ rule ∈ s.applicable path, ∀ line ∈ lines, rule.start.occursIn line = false) :
  s.filter path lines = ⟨lines, 0, (s.applicable path).map (·.name)⟩
  := by
  simp [filter, applyAll_eq_self h]

/-- Where no rule keeps the lines at which its ranges start, filtering what has been filtered
changes nothing; and nothing is ever removed from lines that start no range. -/
theorem filter_idempotent (s : RuleSet) (path : Path) (lines : List String) :
  ((∀ rule ∈ s.applicable path, rule.keepStart = false ∨ rule.finish.isSameLine = true) →
      s.filter path (s.filter path lines).lines
        = ⟨(s.filter path lines).lines, 0, (s.filter path lines).applied⟩)
    ∧ ((∀ rule ∈ s.applicable path, ∀ line ∈ lines, rule.start.occursIn line = false) →
      s.filter path lines = ⟨lines, 0, (s.applicable path).map (·.name)⟩)
  := by
  constructor
  · intro hrules
    apply filter_eq_self (start_of_mem_applyAll hrules)
  · apply filter_eq_self

/-- A rule that keeps the lines at which its ranges start finds them again. -/
example :
  ∃ s ∈ (ofSpecs [⟨"*", none, "BEGIN", "END", true⟩] "maid.json").toOption,
    (s.filter ⟨"a"⟩ ["BEGIN", "END", "b"]).lines = ["BEGIN", "b"]
      ∧ (s.filter ⟨"a"⟩ ["BEGIN", "b"]).lines = ["BEGIN"]
  := by decide +kernel

/-- A range and empty lines are removed from a page, and nothing from what is left of it. -/
theorem filter_idempotent_page :
  ∃ s, ofSpecs [⟨"*.html", some "styles", "<style>", "</style>", false⟩,
      ⟨"*.html", some "blank", "^$", "::line::", true⟩] "maid.json" = .ok s
    ∧ s.filter ⟨"web/index.html"⟩ ["<p>", "", "<style>", "p", "</style>", "", "</p>"]
      = ⟨["<p>", "</p>"], 5, ["styles", "blank"]⟩
    ∧ s.filter ⟨"web/index.html"⟩ ["<p>", "</p>"] = ⟨["<p>", "</p>"], 0, ["styles", "blank"]⟩
    ∧ s.filter ⟨"web/index.html"⟩ ["p"] = ⟨["p"], 0, ["styles", "blank"]⟩
  := by
  have hsample : ∃ s ∈ (ofSpecs [⟨"*.html", some "styles", "<style>", "</style>", false⟩,
        ⟨"*.html", some "blank", "^$", "::line::", true⟩] "maid.json").toOption,
      (∀ rule ∈ s.applicable ⟨"web/index.html"⟩,
        rule.keepStart = false ∨ rule.finish.isSameLine = true)
      ∧ (∀ rule ∈ s.applicable ⟨"web/index.html"⟩, ∀ line ∈ ["p"],
        rule.start.occursIn line = false)
      ∧ (s.applicable ⟨"web/index.html"⟩).map (·.name) = ["styles", "blank"]
      ∧ s.filter ⟨"web/index.html"⟩ ["<p>", "", "<style>", "p", "</style>", "", "</p>"]
        = ⟨["<p>", "</p>"], 5, ["styles", "blank"]⟩ := by
    decide +kernel
  obtain ⟨s, hs, hrules, hnone, hnames, hpage⟩ := hsample
  have hagain := (filter_idempotent s ⟨"web/index.html"⟩
    ["<p>", "", "<style>", "p", "</style>", "", "</p>"]).1 hrules
  have hself := (filter_idempotent s ⟨"web/index.html"⟩ ["p"]).2 hnone
  rw [hpage] at hagain
  rw [hnames] at hself
  use s, toOption_eq_some_iff.mp hs, hpage, hagain, hself

/-- What is left of lines stays as it is when there are more lines behind them, some of which
may be left too, and what is left of ended lines of a text when the text goes on. -/
theorem filter_causal (s : RuleSet) (path : Path) :
  (∀ lines more, ∃ added, added.Sublist more
      ∧ (s.filter path (lines ++ more)).lines = (s.filter path lines).lines ++ added)
    ∧ ∀ text more : String,
      (s.filter path (Text.linesOf (text ++ "\n"))).lines
        <+: (s.filter path (Text.linesOf (text ++ "\n" ++ more))).lines
  := by
  constructor
  · apply exists_applyAll_append (s.applicable path)
  · intro text more
    obtain ⟨added, -, hadded⟩ := exists_applyAll_append (s.applicable path)
      (Text.linesOf (text ++ "\n")) (Text.linesOf more)
    rw [Text.linesOf_append]
    use added, hadded.symm

end Compendium.RuleSet
