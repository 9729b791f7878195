import Compendium.Proofs.Except
import Compendium.Proofs.Resolver.Local
import Compendium.Scope

/-!
# What contexts consist of

`patternsOn` are the patterns on lines, declared in a directory, and `rulesOn` the rules of a
configuration.  Where they can all be used, a configuration contributes just these to a context,
and a scope has at every root those of its sources.
-/

namespace Compendium

/-- The patterns on lines that can be read, declared in a directory. -/
def patternsOn (base : Path) (lines : List String) : List ScopedPattern :=
  lines.filterMap fun raw => (Pattern.read raw).toOption.join.map fun pattern => ⟨pattern, base⟩

/-- The rules that compile. -/
def rulesOn (specs : List RuleSpec) : List Rule :=
  specs.filterMap fun spec => (Rule.compile spec).toOption

/-- Lines have the patterns that are on them, if none of them is faulty. -/
theorem readLines_eq_ok_iff {base : Path} {origin : String} {lines : List String}
    {patterns : List ScopedPattern} :
  PatternSet.readLines base origin lines = .ok patterns
    ↔ (∀ raw ∈ lines, ∃ found, Pattern.read raw = .ok found) ∧ patterns = patternsOn base lines
  := by
  induction lines generalizing patterns with
  | nil => simp [PatternSet.readLines, patternsOn, eq_comm]
  | cons raw rest ih =>
    rw [PatternSet.readLines]
    cases hread : Pattern.read raw with
    | error cause => simp [hread]
    | ok found =>
      cases found with
      | none => simp [ih, hread, patternsOn, Except.toOption]
      | some pattern =>
        simp only [map_eq_ok_iff, ih, List.forall_mem_cons, hread, Except.ok.injEq,
          exists_eq', true_and, patternsOn, List.filterMap_cons, Except.toOption,
          Option.join_some, Option.map_some]
        constructor
        · rintro ⟨tail, ⟨hrest, rfl⟩, rfl⟩
          constructor
          · apply hrest
          · rfl
        · rintro ⟨hrest, rfl⟩
          exact ⟨_, ⟨hrest, rfl⟩, rfl⟩

/-- A configuration has the rules that are in it, if none of them is faulty. -/
theorem readSpecs_eq_ok_iff {origin : String} {specs : List RuleSpec} {rules : List Rule} :
  RuleSet.readSpecs origin specs = .ok rules
    ↔ (∀ spec ∈ specs, ∃ rule, Rule.compile spec = .ok rule) ∧ rules = rulesOn specs
  := by
  induction specs generalizing rules with
  | nil => simp [RuleSet.readSpecs, rulesOn, eq_comm]
  | cons spec rest ih =>
    rw [RuleSet.readSpecs]
    cases hread : Rule.compile spec with
    | error cause => simp [hread]
    | ok rule =>
      simp only [map_eq_ok_iff, ih, List.forall_mem_cons, hread, Except.ok.injEq, exists_eq',
        true_and, rulesOn, List.filterMap_cons, Except.toOption]
      constructor
      · rintro ⟨tail, ⟨hrest, rfl⟩, rfl⟩
        constructor
        · apply hrest
        · rfl
      · rintro ⟨hrest, rfl⟩
        exact ⟨_, ⟨hrest, rfl⟩, rfl⟩

theorem ofLines_eq_ok_iff {base : Path} {origin : String} {lines : List String}
    {patterns : PatternSet} :
  PatternSet.ofLines lines base origin = .ok patterns
    ↔ (∀ raw ∈ lines, ∃ found, Pattern.read raw = .ok found)
      ∧ patterns.patterns = patternsOn base lines
  := by
  cases patterns
  simp only [PatternSet.ofLines, map_eq_ok_iff, readLines_eq_ok_iff, PatternSet.mk.injEq,
    exists_eq_right]

/-- A configuration can be used if none of its patterns and rules is faulty, and contributes its
patterns, declared in the directory, and its rules. -/
theorem ofConfig_eq_ok_iff {config : Config} {base : Path} {origin : String} {c : Context} :
  Context.ofConfig config base origin = .ok c
    ↔ (∀ raw ∈ config.patterns, ∃ found, Pattern.read raw = .ok found)
      ∧ (∀ spec ∈ config.rules, ∃ rule, Rule.compile spec = .ok rule)
      ∧ c.patterns.patterns = patternsOn base config.patterns
      ∧ c.rules.rules = rulesOn config.rules
  := by
  change (PatternSet.ofLines config.patterns base origin >>= fun patterns =>
    RuleSet.ofSpecs config.rules origin >>= fun rules => pure ⟨patterns, rules⟩) = .ok c ↔ _
  rw [bind_eq_ok_iff]
  constructor
  · rintro ⟨patterns, hpatterns, hrest⟩
    obtain ⟨rules, hrules, heq⟩ := bind_eq_ok_iff.mp hrest
    obtain rfl := Except.ok.inj heq
    obtain ⟨specs, hspecs, rfl⟩ := map_eq_ok_iff.mp hrules
    obtain ⟨hread, hlines⟩ := ofLines_eq_ok_iff.mp hpatterns
    obtain ⟨hcompile, hall⟩ := readSpecs_eq_ok_iff.mp hspecs
    use hread, hcompile, hlines, hall
  · rintro ⟨hread, hcompile, hlines, hall⟩
    use c.patterns, ofLines_eq_ok_iff.mpr ⟨hread, hlines⟩
    apply bind_eq_ok_iff.mpr
    use c.rules, map_eq_ok_iff.mpr ⟨_, readSpecs_eq_ok_iff.mpr ⟨hcompile, hall⟩, rfl⟩
    rfl

theorem of_ofConfig_eq_ok {config : Config} {base : Path} {origin : String} {c : Context}
    (h : Context.ofConfig config base origin = .ok c) :
  c.patterns.patterns = patternsOn base config.patterns ∧ c.rules.rules = rulesOn config.rules
  := (ofConfig_eq_ok_iff.mp h).2.2

/-! ### Faulty lines and rules -/

/-- Lines fail with the first of them that is faulty. -/
theorem readLines_eq_error_iff {base : Path} {origin : String} {lines : List String}
    {failure : Failure} :
  PatternSet.readLines base origin lines = .error failure
    ↔ ∃ raw cause, FirstFault Pattern.read lines raw cause
      ∧ failure = .pattern (String.ofList (Text.trim raw.toList)) origin cause
  := by
  induction lines with
  | nil => simp [PatternSet.readLines, not_firstFault_nil]
  | cons raw rest ih =>
    rw [PatternSet.readLines]
    simp only [firstFault_cons_iff]
    cases hread : Pattern.read raw with
    | error cause =>
      simp only [Except.error.injEq, reduceCtorEq, exists_false, false_and, or_false]
      constructor
      · rintro rfl
        exact ⟨raw, cause, ⟨rfl, rfl⟩, rfl⟩
      · rintro ⟨_, _, ⟨rfl, rfl⟩, rfl⟩
        rfl
    | ok found =>
      simp only [reduceCtorEq, and_false, false_or, Except.ok.injEq, exists_eq', true_and, ← ih]
      cases found with
      | none => rfl
      | some pattern => apply map_eq_error_iff

/-- Rules fail with the first of them that is faulty. -/
theorem readSpecs_eq_error_iff {origin : String} {specs : List RuleSpec} {failure : Failure} :
  RuleSet.readSpecs origin specs = .error failure
    ↔ ∃ spec cause, FirstFault Rule.compile specs spec cause
      ∧ failure = .rule (Rule.nameOf spec) origin cause
  := by
  induction specs with
  | nil => simp [RuleSet.readSpecs, not_firstFault_nil]
  | cons spec rest ih =>
    rw [RuleSet.readSpecs]
    simp only [firstFault_cons_iff]
    cases hread : Rule.compile spec with
    | error cause =>
      simp only [Except.error.injEq, reduceCtorEq, exists_false, false_and, or_false]
      constructor
      · rintro rfl
        exact ⟨spec, cause, ⟨rfl, rfl⟩, rfl⟩
      · rintro ⟨_, _, ⟨rfl, rfl⟩, rfl⟩
        rfl
    | ok rule =>
      simp only [reduceCtorEq, and_false, false_or, Except.ok.injEq, exists_eq', true_and, ← ih]
      apply map_eq_error_iff

/-- Whether a failure is about a pattern or a rule. -/
inductive Failure.OfContent : Failure → Prop
  | pattern (text origin : String) (cause : Pattern.Fault) : OfContent (.pattern text origin cause)
  | rule (name origin : String) (cause : Rule.Fault) : OfContent (.rule name origin cause)

/-- A configuration that cannot be used has a faulty pattern or a faulty rule. -/
theorem ofContent_of_ofConfig {config : Config} {base : Path} {origin : String} {failure : Failure}
    (h : Context.ofConfig config base origin = .error failure) :
  failure.OfContent
  := by
  rcases bind_eq_error_iff.mp h with hlines | ⟨patterns, -, hrest⟩
  · obtain ⟨raw, cause, -, rfl⟩ := readLines_eq_error_iff.mp (map_eq_error_iff.mp hlines)
    apply Failure.OfContent.pattern
  · rcases bind_eq_error_iff.mp hrest with hspecs | ⟨rules, -, hpure⟩
    · obtain ⟨spec, cause, -, rfl⟩ := readSpecs_eq_error_iff.mp (map_eq_error_iff.mp hspecs)
      apply Failure.OfContent.rule
    · cases hpure

namespace Scope

/-- Sources have the patterns on their lines, one source after the other. -/
theorem patternsOf_eq_ok_iff {root : Path} {sources : List (String × List String)}
    {patterns : PatternSet} :
  patternsOf root sources = .ok patterns
    ↔ (∀ source ∈ sources, ∀ raw ∈ source.2, ∃ found, Pattern.read raw = .ok found)
      ∧ patterns.patterns = sources.flatMap fun source => patternsOn root source.2
  := by
  induction sources generalizing patterns with
  | nil =>
    cases patterns
    simp [patternsOf, PatternSet.empty, eq_comm]
  | cons source rest ih =>
    obtain ⟨origin, lines⟩ := source
    rw [patternsOf, List.forall_mem_cons]
    change (PatternSet.ofLines lines root origin >>= fun first =>
      patternsOf root rest >>= fun others => pure (first ++ others)) = .ok patterns ↔ _
    rw [bind_eq_ok_iff]
    constructor
    · rintro ⟨first, hfirst, hrest⟩
      obtain ⟨others, hothers, heq⟩ := bind_eq_ok_iff.mp hrest
      obtain rfl := Except.ok.inj heq
      obtain ⟨hlines, hpatterns⟩ := ofLines_eq_ok_iff.mp hfirst
      obtain ⟨hsources, hall⟩ := ih.mp hothers
      use ⟨hlines, hsources⟩
      rw [List.flatMap_cons, ← hpatterns, ← hall]
      rfl
    · rintro ⟨⟨hlines, hsources⟩, hall⟩
      use ⟨patternsOn root lines⟩, ofLines_eq_ok_iff.mpr ⟨hlines, rfl⟩
      apply bind_eq_ok_iff.mpr
      use ⟨rest.flatMap fun source => patternsOn root source.2⟩, ih.mpr ⟨hsources, rfl⟩
      rw [List.flatMap_cons] at hall
      apply congrArg Except.ok (congrArg PatternSet.mk hall.symm)

/-- A scope has a context at a root if all its lines can be read, and this has the patterns on
them, declared at the root. -/
theorem contextAt_eq_ok_iff {scope : Scope} {root : Path} {above : Context} :
  scope.contextAt root = .ok above
    ↔ (∀ raw ∈ scope.patternTexts, ∃ found, Pattern.read raw = .ok found)
      ∧ above.patterns.patterns = patternsOn root scope.patternTexts ∧ above.rules = scope.rules
  := by
  have hall : patternsOn root scope.patternTexts
      = scope.sources.flatMap fun source => patternsOn root source.2 := by
    rw [patternsOn, patternTexts, List.filterMap_flatMap]
    rfl
  have hread : (∀ raw ∈ scope.patternTexts, ∃ found, Pattern.read raw = .ok found)
      ↔ ∀ source ∈ scope.sources, ∀ raw ∈ source.2, ∃ found, Pattern.read raw = .ok found := by
    simp only [patternTexts, List.mem_flatMap]
    use fun h source hsource raw hraw => h raw ⟨source, hsource, hraw⟩
    rintro h raw ⟨source, hsource, hraw⟩
    apply h source hsource raw hraw
  rw [contextAt, map_eq_ok_iff, hall, hread]
  constructor
  · rintro ⟨patterns, hpatterns, rfl⟩
    obtain ⟨hlines, heq⟩ := patternsOf_eq_ok_iff.mp hpatterns
    exact ⟨hlines, heq, rfl⟩
  · rintro ⟨hlines, heq, hrules⟩
    use above.patterns, patternsOf_eq_ok_iff.mpr ⟨hlines, heq⟩
    rw [← hrules]

/-- The rules of a configuration, if there is one. -/
def rulesOf (config : Option LoadedConfig) : Except Failure RuleSet :=
  match config with
  | some loaded => RuleSet.ofSpecs loaded.config.rules loaded.origin
  | none => .ok .empty

theorem rulesOf_eq_ok_iff {config : Option LoadedConfig} {rules : RuleSet} :
  rulesOf config = .ok rules
    ↔ (∀ loaded, config = some loaded →
        ∀ spec ∈ loaded.config.rules, ∃ rule, Rule.compile spec = .ok rule)
      ∧ rules.rules = config.toList.flatMap (fun loaded => rulesOn loaded.config.rules)
  := by
  obtain ⟨compiled⟩ := rules
  cases config with
  | none => simp [rulesOf, RuleSet.empty, eq_comm]
  | some loaded => simp [rulesOf, RuleSet.ofSpecs, map_eq_ok_iff, readSpecs_eq_ok_iff]

/-- A scope is made once its rules are compiled and it has a context at one root. -/
theorem make_eq {builtin extra : List String} {config : Option LoadedConfig} :
  make builtin config extra = (do
    let rules ← rulesOf config
    let _ ← contextAt ⟨builtin, config, extra, rules⟩ ⟨"."⟩
    return ⟨builtin, config, extra, rules⟩)
  := by cases config <;> rfl

/-- A scope is made of a configuration none of whose rules is faulty.  It has these rules, and a
context at one root. -/
theorem make_eq_ok {builtin extra : List String} {config : Option LoadedConfig}
    {scope : Scope} (h : make builtin config extra = .ok scope) :
  ∃ rules here, scope = ⟨builtin, config, extra, rules⟩
    ∧ (∀ loaded, config = some loaded →
      ∀ spec ∈ loaded.config.rules, ∃ rule, Rule.compile spec = .ok rule)
    ∧ rules.rules = config.toList.flatMap (fun loaded => rulesOn loaded.config.rules)
    ∧ scope.contextAt ⟨"."⟩ = .ok here
  := by
  rw [make_eq] at h
  obtain ⟨rules, hrules, hscope⟩ := bind_eq_ok_iff.mp h
  obtain ⟨here, hhere, heq⟩ := bind_eq_ok_iff.mp hscope
  obtain rfl := Except.ok.inj heq
  obtain ⟨hcompile, hall⟩ := rulesOf_eq_ok_iff.mp hrules
  use rules, here, rfl, hcompile, hall, hhere

/-- In a scope that is made, no rule of its configuration and none of its patterns is faulty. -/
theorem sound_of_make {builtin extra : List String} {config : Option LoadedConfig}
    {scope : Scope} (h : make builtin config extra = .ok scope) :
  (∀ loaded, config = some loaded →
      (∀ spec ∈ loaded.config.rules, ∃ rule, Rule.compile spec = .ok rule)
        ∧ ∀ raw ∈ loaded.config.patterns, ∃ found, Pattern.read raw = .ok found)
    ∧ ∀ raw ∈ extra, ∃ found, Pattern.read raw = .ok found
  := by
  obtain ⟨rules, here, rfl, hcompile, -, hhere⟩ := make_eq_ok h
  obtain ⟨hread, -⟩ := contextAt_eq_ok_iff.mp hhere
  constructor
  · rintro loaded rfl
    use hcompile loaded rfl
    intro raw hraw
    apply hread raw (by simp [patternTexts, sources, hraw])
  · intro raw hraw
    apply hread raw (by simp [patternTexts, sources, hraw])

/-- What can be declared at one root can be declared at each, so that a scope that can be made
has a context at every root. -/
theorem contextAt_of_make {builtin extra : List String} {config : Option LoadedConfig}
    {scope : Scope} (h : make builtin config extra = .ok scope) (root : Path) :
  ∃ above, scope.contextAt root = .ok above
    ∧ above.patterns.patterns = patternsOn root builtin
      ++ (config.toList.flatMap fun loaded => patternsOn root loaded.config.patterns)
      ++ patternsOn root extra
    ∧ above.rules.rules = config.toList.flatMap fun loaded => rulesOn loaded.config.rules
  := by
  obtain ⟨rules, here, rfl, -, hrules, hhere⟩ := make_eq_ok h
  obtain ⟨patterns, hpatterns, -⟩ := map_eq_ok_iff.mp hhere
  obtain ⟨hsources, -⟩ := patternsOf_eq_ok_iff.mp hpatterns
  have hroot : patternsOf root (sources ⟨builtin, config, extra, rules⟩)
      = .ok ⟨(sources ⟨builtin, config, extra, rules⟩).flatMap
        fun source => patternsOn root source.2⟩ :=
    patternsOf_eq_ok_iff.mpr ⟨hsources, rfl⟩
  refine ⟨⟨_, rules⟩, map_eq_ok_iff.mpr ⟨_, hroot, rfl⟩, ?_, hrules⟩
  simp [sources, List.flatMap_map]

end Scope

end Compendium
